import BrokerFleet.Proofs.Cluster.Checking
import Mathlib.Data.List.Infix

/-! # Mounted objects in order

A mounted object has to exist, and to hold what its name promises. The check of the mounts ends with
the first that does not, and only then counts the configurations of each purpose. -/

namespace BrokerFleet.Validity

/-! ## Mounts -/

inductive Mount where
  | configMap (name : String)
  | secret (name : String)

namespace Mount

variable {config : Config} {w : Contents} {m : Mount}

def name : Mount → String
  | configMap name | secret name => name

/-- The mounted objects, in the order in which they are checked. -/
def listed (mounts : ExtraMounts) : List Mount :=
  mounts.configMaps.map configMap ++ mounts.secrets.map secret

def isLogging (m : Mount) : Bool := Text.endsWith m.name loggingSuffix

def isJaas (m : Mount) : Bool := Text.endsWith m.name jaasSuffix

def count (m : Mount) : MountCount := ⟨m.isLogging.toNat, m.isJaas.toNat⟩

def Absent (w : Contents) : Mount → Prop
  | configMap name => w.configMaps name = none
  | secret name => w.secrets name = none

/-- A config map exists, is no login configuration, and as a logging configuration holds its key. -/
structure SoundConfigMap (w : Contents) (name : String) (map : ConfigMap) : Prop where
  found : w.configMaps name = some map
  not_jaas : (configMap name).isJaas = false
  logging : (configMap name).isLogging = true → map.hasKey loggingKey = true

/-- A secret exists, as a logging configuration holds its key, and as a login configuration holds a
text of the configured form. -/
structure SoundSecret (config : Config) (w : Contents) (name : String) (held : Secret) : Prop where
  found : w.secrets name = some held
  logging : (secret name).isLogging = true → held.hasKey loggingKey = true
  jaas : (secret name).isJaas = true → ∃ content, held.value? jaasKey = some content ∧
    ∀ form, config.jaasSyntax = some form → form.accepts content = true

/-- A mount of which nothing is to be said. -/
def Sound (config : Config) (w : Contents) : Mount → Prop
  | configMap name => ∃ map, SoundConfigMap w name map
  | secret name => ∃ held, SoundSecret config w name held

def check (config : Config) (ns : String) : Mount → Check MountCount
  | configMap name => configMapMount ns name
  | secret name => secretMount config ns name

/-- What the check of a mount comes to. -/
inductive Judged (config : Config) (w : Contents) (m : Mount) :
    Except Finding MountCount → Prop where
  | sound {counted : MountCount} (hcount : m.count = counted) (hsound : m.Sound config w) :
      Judged config w m (.ok counted)
  | absent {f : Finding} (habsent : m.Absent w) (hreason : f.reason = .missingResources)
      (hstatus : f.status = .no) (hretry : f.retry = true) : Judged config w m (.error f)
  | faulty {f : Finding} (hpresent : ¬ m.Absent w) (hnot : ¬ m.Sound config w)
      (hreason : f.reason = .invalidExtraMount) (hstatus : f.status = .no)
      (hretry : f.retry = false) :
      Judged config w m (.error f)

theorem not_sound_of_absent (h : m.Absent w) : ¬ m.Sound config w := by
  cases m with
  | configMap name =>
    rintro ⟨map, hmap⟩
    exact nomatch h.symm.trans hmap.found
  | secret name =>
    rintro ⟨held, hheld⟩
    exact nomatch h.symm.trans hheld.found

theorem Judged.sound_of_ok {counted : MountCount} (hm : m.Judged config w (.ok counted)) :
    m.Sound config w ∧ m.count = counted := by
  cases hm with
  | sound hcount hsound => exact ⟨hsound, hcount⟩

theorem Judged.not_sound {f : Finding} (hm : m.Judged config w (.error f)) :
    ¬ m.Sound config w := by
  cases hm with
  | absent habsent _ _ _ => exact not_sound_of_absent habsent
  | faulty _ hnot _ _ _ => exact hnot

/-- No name ends both ways, since neither ending is one of the other. -/
theorem isJaas_of_isLogging (h : m.isLogging = true) : m.isJaas = false := by
  by_contra hjaas
  have hsuffix := Text.endsWith_iff.mp h
  have hsuffix' := Text.endsWith_iff.mp (by simpa using hjaas : m.isJaas = true)
  exact absurd (List.suffix_of_suffix_length_le hsuffix' hsuffix (by decide)) (by decide)

theorem count_logging (h : m.isLogging = true) : m.count = { logging := 1 } := by
  simp [count, h, isJaas_of_isLogging h]

theorem count_jaas (h : m.isLogging = false) (hjaas : m.isJaas = true) :
    m.count = { jaas := 1 } := by
  simp [count, h, hjaas]

theorem count_plain (h : m.isLogging = false) (hjaas : m.isJaas = false) : m.count = {} := by
  simp [count, h, hjaas]

section Checked

variable {σ : Type} {h : Handler surroundings σ} {ns : String} {Q : σ → Prop}

theorem ends_configMapMount (config : Config) (hserves : Serves h ns w Q) (name : String) :
    Ends h Q (configMapMount ns name) (Judged config w (configMap name)) := by
  refine Ends.getConfigMap hserves ?_
  cases hfound : w.configMaps name with
  | none => exact .throw (.absent hfound rfl rfl rfl)
  | some map =>
    have hpresent : ¬ (configMap name).Absent w := by simp [Absent, hfound]
    dsimp only
    split
    · next hjaas =>
      refine .throw (.faulty hpresent ?_ rfl rfl rfl)
      rintro ⟨map', hsound⟩
      exact nomatch hjaas.symm.trans hsound.not_jaas
    · next hnot =>
      have hjaas : (configMap name).isJaas = false := eq_false_of_ne_true hnot
      split
      · next hlogging =>
        split
        · next hkey =>
          refine .pure (.sound (count_logging hlogging) ⟨map, ?_⟩)
          exact ⟨hfound, hjaas, fun _ => hkey⟩
        · next hkey =>
          refine .throw (.faulty hpresent ?_ rfl rfl rfl)
          rintro ⟨map', hsound⟩
          obtain rfl : map = map' := Option.some.inj (hfound.symm.trans hsound.found)
          exact hkey (hsound.logging hlogging)
      · next hnot =>
        have hlogging : (configMap name).isLogging = false := eq_false_of_ne_true hnot
        refine .pure (.sound (count_plain hlogging hjaas) ⟨map, ?_⟩)
        exact ⟨hfound, hjaas, fun h => absurd h hnot⟩

theorem ends_secretMount (hserves : Serves h ns w Q) (name : String) :
    Ends h Q (secretMount config ns name) (Judged config w (secret name)) := by
  refine Ends.getSecret hserves ?_
  cases hfound : w.secrets name with
  | none => exact .throw (.absent hfound rfl rfl rfl)
  | some held =>
    have hpresent : ¬ (secret name).Absent w := by simp [Absent, hfound]
    dsimp only
    split
    · next hlogging =>
      have hjaas : (secret name).isJaas = false := isJaas_of_isLogging hlogging
      split
      · next hkey =>
        refine .pure (.sound (count_logging hlogging) ⟨held, ?_⟩)
        exact ⟨hfound, fun _ => hkey, fun h => nomatch hjaas.symm.trans h⟩
      · next hkey =>
        refine .throw (.faulty hpresent ?_ rfl rfl rfl)
        rintro ⟨held', hsound⟩
        obtain rfl : held = held' := Option.some.inj (hfound.symm.trans hsound.found)
        exact hkey (hsound.logging hlogging)
    · next hnot =>
      have hlogging : (secret name).isLogging = false := eq_false_of_ne_true hnot
      split
      · next hjaas =>
        split
        · next hcontent =>
          refine .throw (.faulty hpresent ?_ rfl rfl rfl)
          rintro ⟨held', hsound⟩
          obtain rfl : held = held' := Option.some.inj (hfound.symm.trans hsound.found)
          obtain ⟨content, hvalue, -⟩ := hsound.jaas hjaas
          exact nomatch hcontent.symm.trans hvalue
        · next content hcontent hform =>
          refine .pure (.sound (count_jaas hlogging hjaas) ⟨held, ?_⟩)
          refine ⟨hfound, fun h => absurd h hnot, fun _ => ⟨content, hcontent, fun form h => ?_⟩⟩
          exact nomatch hform.symm.trans h
        · next content form hcontent hform =>
          split
          · next haccepts =>
            refine .pure (.sound (count_jaas hlogging hjaas) ⟨held, ?_⟩)
            refine ⟨hfound, fun h => absurd h hnot, fun _ => ⟨content, hcontent, fun form' h => ?_⟩⟩
            obtain rfl := Option.some.inj (hform.symm.trans h)
            exact haccepts
          · next haccepts =>
            refine .throw (.faulty hpresent ?_ rfl rfl rfl)
            rintro ⟨held', hsound⟩
            obtain rfl : held = held' := Option.some.inj (hfound.symm.trans hsound.found)
            obtain ⟨content', hvalue, hall⟩ := hsound.jaas hjaas
            obtain rfl := Option.some.inj (hcontent.symm.trans hvalue)
            exact haccepts (hall form hform)
      · next hnot' =>
        have hjaas : (secret name).isJaas = false := eq_false_of_ne_true hnot'
        refine .pure (.sound (count_plain hlogging hjaas) ⟨held, ?_⟩)
        exact ⟨hfound, fun h => absurd h hnot, fun h => absurd h hnot'⟩

theorem ends_check (hserves : Serves h ns w Q) (m : Mount) :
    Ends h Q (m.check config ns) (m.Judged config w) := by
  cases m with
  | configMap name => exact ends_configMapMount config hserves name
  | secret name => exact ends_secretMount hserves name

end Checked

end Mount

/-! ## All mounts -/

section Mounts

variable {config : Config} {w : Contents} {mounts : ExtraMounts}

/-- Every mount is sound, and no purpose has two configurations. -/
structure MountsSound (config : Config) (w : Contents) (mounts : ExtraMounts) : Prop where
  each : ∀ m ∈ Mount.listed mounts, m.Sound config w
  logging : (Mount.listed mounts).countP Mount.isLogging ≤ 1
  jaas : (Mount.listed mounts).countP Mount.isJaas ≤ 1

/-- The first mount that is not sound does not exist. -/
def AwaitsMount (config : Config) (w : Contents) (mounts : ExtraMounts) : Prop :=
  ∃ m, FirstFailing (Mount.Sound config w) (Mount.listed mounts) m ∧ m.Absent w

theorem extraMounts_eq (config : Config) (ns : String) (mounts : ExtraMounts) :
    extraMounts config ns mounts = (Mount.listed mounts).mapM (Mount.check config ns) >>=
      fun counts =>
      if (MountCount.sum counts).logging > 1 then throw (duplicate "logging")
      else if (MountCount.sum counts).jaas > 1 then throw (duplicate "JAAS")
      else pure () := by
  simp only [extraMounts, Mount.listed, List.mapM_append, List.mapM_map, bind_assoc, pure_bind]
  rfl

theorem sum_count (ms : List Mount) :
    MountCount.sum (ms.map Mount.count) = ⟨ms.countP Mount.isLogging, ms.countP Mount.isJaas⟩ := by
  induction ms with
  | nil => rfl
  | cons m rest ih =>
    change MountCount.add m.count (MountCount.sum (rest.map Mount.count)) = _
    rw [ih]
    simp only [MountCount.add, Mount.count, List.countP_cons, Nat.add_comm, MountCount.mk.injEq]
    exact ⟨by cases m.isLogging <;> rfl, by cases m.isJaas <;> rfl⟩

/-- What the check of all mounts comes to. -/
inductive MountsJudged (config : Config) (w : Contents) (mounts : ExtraMounts) :
    Except Finding Unit → Prop where
  | sound (hsound : MountsSound config w mounts) : MountsJudged config w mounts (.ok ())
  | unsound {f : Finding} (hnot : ¬ MountsSound config w mounts)
      (hreason : f.reason ∈ [.missingResources, .invalidExtraMount, .duplicateExtraMount])
      (hstatus : f.status = .no) (hretry : f.retry = true ↔ AwaitsMount config w mounts) :
      MountsJudged config w mounts (.error f)

theorem not_awaitsMount_of_each (h : ∀ m ∈ Mount.listed mounts, m.Sound config w) :
    ¬ AwaitsMount config w mounts := by
  rintro ⟨m, hfirst, -⟩
  exact hfirst.not_holds (h m hfirst.mem)

theorem mountsJudged_of_first {m : Mount} {f : Finding}
    (hfirst : FirstFailing (Mount.Sound config w) (Mount.listed mounts) m)
    (hm : m.Judged config w (.error f)) : MountsJudged config w mounts (.error f) := by
  have hnot : ¬ MountsSound config w mounts := fun h => hfirst.not_holds (h.each m hfirst.mem)
  cases hm with
  | absent habsent hreason hstatus hretry =>
    exact .unsound hnot (by simp [hreason]) hstatus (iff_of_true hretry ⟨m, hfirst, habsent⟩)
  | faulty hpresent _ hreason hstatus hretry =>
    refine .unsound hnot (by simp [hreason]) hstatus (iff_of_false (by simp [hretry]) ?_)
    rintro ⟨m', hfirst', habsent⟩
    exact hpresent (hfirst.unique hfirst' ▸ habsent)

theorem ends_extraMounts {σ : Type} {h : Handler surroundings σ} {ns : String} {Q : σ → Prop}
    (hserves : Serves h ns w Q) :
    Ends h Q (extraMounts config ns mounts) (MountsJudged config w mounts) := by
  rw [extraMounts_eq]
  refine (Ends.mapM (Mount.ends_check hserves) _).bind (fun counts hcounts => ?_) fun f hf => ?_
  · obtain ⟨heach, rfl⟩ := hcounts.of_ok Mount.count fun m counted hm => hm.sound_of_ok
    rw [sum_count]
    split
    · next htwo =>
      refine .throw (.unsound (fun h => ?_) (by simp [duplicate]) rfl ?_)
      · exact absurd h.logging (Nat.not_le.mpr htwo)
      · exact iff_of_false (by simp [duplicate]) (not_awaitsMount_of_each heach)
    · next hlogging =>
      split
      · next htwo =>
        refine .throw (.unsound (fun h => ?_) (by simp [duplicate]) rfl ?_)
        · exact absurd h.jaas (Nat.not_le.mpr htwo)
        · exact iff_of_false (by simp [duplicate]) (not_awaitsMount_of_each heach)
      · next hjaas => exact .pure (.sound ⟨heach, Nat.not_lt.mp hlogging, Nat.not_lt.mp hjaas⟩)
  · obtain ⟨m, hfirst, hm⟩ :=
      hf.of_error (fun m counted hm => hm.sound_of_ok.1) fun m f hm => hm.not_sound
    exact mountsJudged_of_first hfirst hm

end Mounts

end BrokerFleet.Validity
