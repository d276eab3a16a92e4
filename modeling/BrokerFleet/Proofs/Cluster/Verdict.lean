import BrokerFleet.Proofs.Cluster.Mounts
import BrokerFleet.Proofs.Declaration.Fields

/-! # The verdict of validation

A cluster is valid exactly if its fields, its mounts, its disruption budget, its console secret and
its images are all in order. Otherwise the verdict is that of the first of these groups that is
not. -/

namespace BrokerFleet.Validity

/-! ## The fields -/

theorem fields_eq_none_iff {spec : ClusterSpec} : fields spec = none ↔ spec.WellFormed := by
  rw [← ClusterSpec.violations_eq_nil_iff]
  unfold fields
  dsimp only
  split
  · next hfree => exact iff_of_true rfl hfree
  · next hviolated => exact iff_of_false nofun hviolated

/-! ## The console secret -/

/-- A console secret holds both passwords, a key store and a trust store. -/
structure ConsoleSecret (held : Secret) : Prop where
  keyStorePassword : held.hasKey "keyStorePassword" = true
  trustStorePassword : held.hasKey "trustStorePassword" = true
  keyStore : held.hasKey "keyStorePath" = true ∨ held.hasKey "broker.ks" = true
  trustStore : held.hasKey "trustStorePath" = true ∨ held.hasKey "client.ts" = true

theorem absentConsoleKeys_eq_nil_iff {held : Secret} :
    absentConsoleKeys held = [] ↔ ConsoleSecret held := by
  have hnamed : ∀ keys ∈ consoleKeys, keys.head? ≠ none := by decide
  have hheads : absentConsoleKeys held = [] ↔
      ∀ keys ∈ consoleKeys, keys.any held.hasKey = true := by
    rw [absentConsoleKeys, List.filterMap_eq_nil_iff]
    constructor
    · intro h keys hkeys
      by_contra hnone
      exact hnamed keys hkeys (h keys (List.mem_filter.mpr ⟨hkeys, by simpa using hnone⟩))
    · intro h keys hkeys
      obtain ⟨hmem, hnone⟩ := List.mem_filter.mp hkeys
      rw [h keys hmem] at hnone
      cases hnone
  rw [hheads]
  simp only [consoleKeys, List.forall_mem_cons, List.any_cons, List.any_nil, Bool.or_false,
    Bool.or_eq_true, List.not_mem_nil, false_implies, implies_true, and_true]
  exact ⟨fun ⟨h₁, h₂, h₃, h₄⟩ => ⟨h₁, h₂, h₃, h₄⟩, fun ⟨h₁, h₂, h₃, h₄⟩ => ⟨h₁, h₂, h₃, h₄⟩⟩

/-! ## The images -/

section Images

variable {spec : ClusterSpec}

/-- A version is declared, and not as an empty text. -/
def DeclaresVersion (spec : ClusterSpec) (declared : String) : Prop :=
  spec.version = some declared ∧ declared ≠ ""

def imagePinned (spec : ClusterSpec) : Bool := Version.isPinned spec.deploymentPlan.image

def initImagePinned (spec : ClusterSpec) : Bool := Version.isPinned spec.deploymentPlan.initImage

/-- A declared version is supported and no image pinned, or no version is declared and the images
are pinned both or neither. -/
inductive ImagesSettled (spec : ClusterSpec) : Prop where
  | declared {declared : String} (hversion : DeclaresVersion spec declared)
      (hsupported : (Version.resolve? declared).isSome = true) (himage : imagePinned spec = false)
      (hinit : initImagePinned spec = false)
  | undeclared (hnone : ∀ declared, ¬ DeclaresVersion spec declared)
      (hpair : imagePinned spec = initImagePinned spec)

/-- A supported version is declared along with a pinned image, or one image is pinned without the
other. -/
inductive ImagesAmbiguous (spec : ClusterSpec) : Prop where
  | conflict {declared : String} (hversion : DeclaresVersion spec declared)
      (hsupported : (Version.resolve? declared).isSome = true)
      (hpinned : imagePinned spec = true ∨ initImagePinned spec = true)
  | unpaired (hnone : ∀ declared, ¬ DeclaresVersion spec declared)
      (hpair : imagePinned spec ≠ initImagePinned spec)

theorem filter_version_eq_some_iff {declared : String} :
    spec.version.filter (· ≠ "") = some declared ↔ DeclaresVersion spec declared := by
  simp [Option.filter_eq_some_iff, DeclaresVersion]

theorem filter_version_eq_none_iff :
    spec.version.filter (· ≠ "") = none ↔ ∀ declared, ¬ DeclaresVersion spec declared := by
  simp only [← filter_version_eq_some_iff, Option.eq_none_iff_forall_ne_some, ne_eq]

theorem not_ambiguous_of_settled (h : ImagesSettled spec) : ¬ ImagesAmbiguous spec := by
  rintro (⟨hversion, -, hpinned⟩ | ⟨hnone, hpair⟩)
  · cases h with
    | declared _ _ himage hinit => simp [himage, hinit] at hpinned
    | undeclared hnone _ => exact hnone _ hversion
  · cases h with
    | declared hversion _ _ _ => exact hnone _ hversion
    | undeclared _ hpair' => exact hpair hpair'

/-- What the check of the version and the images comes to. -/
inductive ImagesJudged (spec : ClusterSpec) : Option Finding → Prop where
  | settled (hsettled : ImagesSettled spec) : ImagesJudged spec none
  | ambiguous {f : Finding} (hambiguous : ImagesAmbiguous spec)
      (hreason : f.reason ∈ [.imageVersionConflict, .imageDependentPair])
      (hstatus : f.status = .unknown)
      (hretry : f.retry = false) : ImagesJudged spec (some f)
  | unsupported {f : Finding} {declared : String} (hversion : DeclaresVersion spec declared)
      (hunsupported : Version.resolve? declared = none) (hreason : f.reason = .versionInvalid)
      (hstatus : f.status = .no) (hretry : f.retry = false) : ImagesJudged spec (some f)

theorem version_judged (spec : ClusterSpec) : ImagesJudged spec (version spec) := by
  unfold version
  dsimp only
  split
  · next declared hfilter =>
    have hversion := filter_version_eq_some_iff.mp hfilter
    split
    · next hunsupported =>
      exact .unsupported hversion (Option.isNone_iff_eq_none.mp hunsupported) rfl rfl rfl
    · next hsupported =>
      have hsome : (Version.resolve? declared).isSome = true := by
        simpa [Option.isSome_iff_ne_none] using hsupported
      split
      · next hpinned =>
        exact .ambiguous (.conflict hversion hsome (Bool.or_eq_true_iff.mp hpinned))
          (by simp) rfl rfl
      · next hpinned =>
        obtain ⟨himage, hinit⟩ := Bool.or_eq_false_iff.mp (eq_false_of_ne_true hpinned)
        exact .settled (.declared hversion hsome himage hinit)
  · next hfilter =>
    have hnone := filter_version_eq_none_iff.mp hfilter
    split
    · next hpair =>
      have hne : imagePinned spec ≠ initImagePinned spec := bne_iff_ne.mp hpair
      exact .ambiguous (.unpaired hnone hne) (by simp) rfl rfl
    · next hpair =>
      have heq : imagePinned spec = initImagePinned spec := by
        simpa [imagePinned, initImagePinned] using hpair
      exact .settled (.undeclared hnone heq)

end Images

/-! ## The groups -/

inductive Group where
  | fields
  | mounts
  | budget
  | console
  | images
  deriving DecidableEq, Repr

namespace Group

variable {config : Config} {w : Contents} {c : Cluster} {g : Group}

/-- The groups in the order in which they are checked. -/
def inOrder : List Group := [fields, mounts, budget, console, images]

def check (config : Config) (c : Cluster) : Group → Check Unit
  | fields => report (Validity.fields c.spec)
  | mounts => extraMounts config c.ns c.spec.deploymentPlan.extraMounts
  | budget => report (disruptionBudget c.spec)
  | console => Validity.console c
  | images => report (version c.spec)

def Holds (config : Config) (w : Contents) (c : Cluster) : Group → Prop
  | fields => c.spec.WellFormed
  | mounts => MountsSound config w c.spec.deploymentPlan.extraMounts
  | budget => ∀ b, c.spec.deploymentPlan.podDisruptionBudget = some b → b.selector = none
  | console => c.spec.console.sslEnabled = true → ∃ held,
      w.secrets (ClusterNames.ofCluster c).consoleSecret = some held ∧ ConsoleSecret held
  | images => ImagesSettled c.spec

def reasons : Group → List Reason
  | fields => [.specInvalid]
  | mounts => [.missingResources, .invalidExtraMount, .duplicateExtraMount]
  | budget => [.budgetSelectorSet]
  | console => [.invalidConsoleSecret]
  | images => [.versionInvalid, .imageVersionConflict, .imageDependentPair]

/-- A failure of a group that leaves open what is meant. -/
def Ambiguous (c : Cluster) : Group → Prop
  | images => ImagesAmbiguous c.spec
  | _ => False

/-- A failure of a group by an object that does not exist. -/
def Awaits (config : Config) (w : Contents) (c : Cluster) : Group → Prop
  | mounts => AwaitsMount config w c.spec.deploymentPlan.extraMounts
  | console => w.secrets (ClusterNames.ofCluster c).consoleSecret = none
  | _ => False

/-- What the check of a group comes to. -/
inductive Judged (config : Config) (w : Contents) (c : Cluster) (g : Group) :
    Except Finding Unit → Prop where
  | passed (hholds : g.Holds config w c) : Judged config w c g (.ok ())
  | failed {f : Finding} (hnot : ¬ g.Holds config w c) (hreason : f.reason ∈ g.reasons)
      (hstatus : f.status ≠ .yes) (hambiguous : f.status = .unknown ↔ g.Ambiguous c)
      (hretry : f.retry = true ↔ g.Awaits config w c) : Judged config w c g (.error f)

theorem Judged.holds (hg : g.Judged config w c (.ok ())) : g.Holds config w c := by
  cases hg with
  | passed hholds => exact hholds

theorem Judged.not_holds {f : Finding} (hg : g.Judged config w c (.error f)) :
    ¬ g.Holds config w c := by
  cases hg with
  | failed hnot _ _ _ _ => exact hnot

theorem checks_eq (config : Config) (c : Cluster) :
    checks config c = inOrder.mapM (check config c) >>= fun _ => pure () := by
  simp only [inOrder, List.mapM_cons, List.mapM_nil, check, bind_assoc, pure_bind, checks]
  simp

/-- The words for the reasons of a group. -/
def words (g : Group) : List String := g.reasons.map Reason.render

/-- A reason tells the group. -/
theorem eq_of_mem_words {g' : Group} {word : String} (h : word ∈ g.words) (h' : word ∈ g'.words) :
    g = g' := by
  by_contra hne
  have hdisjoint : ∀ x ∈ g.words, x ∉ g'.words := by
    cases g <;> cases g' <;> first | exact absurd rfl hne | decide
  exact hdisjoint word h h'

section Checked

variable {σ : Type} {h : Handler surroundings σ} {Q : σ → Prop}

theorem ends_fields : Ends h Q (check config c fields) (Judged config w c fields) := by
  refine .report (fun hnone => .passed (fields_eq_none_iff.mp hnone)) fun f hf => ?_
  unfold Validity.fields at hf
  dsimp only at hf
  split at hf
  · cases hf
  · next hviolated =>
    cases hf
    refine .failed
      (fun hholds => hviolated (ClusterSpec.violations_eq_nil_iff.mpr hholds)) ?_ ?_ ?_ ?_
    · exact List.mem_singleton_self _
    · exact nofun
    · exact iff_of_false nofun id
    · exact iff_of_false nofun id

theorem ends_mounts (hserves : Serves h c.ns w Q) :
    Ends h Q (check config c mounts) (Judged config w c mounts) := by
  refine (ends_extraMounts hserves).mono fun r hr => ?_
  cases hr with
  | sound hsound => exact .passed hsound
  | unsound hnot hreason hstatus hretry =>
    exact .failed hnot hreason (by simp [hstatus]) (iff_of_false (by simp [hstatus]) id) hretry

theorem ends_budget : Ends h Q (check config c budget) (Judged config w c budget) := by
  refine .report (fun hnone => .passed fun b hb => ?_) fun f hf => ?_
  · simpa [disruptionBudget, hb] using hnone
  · unfold disruptionBudget at hf
    split at hf
    · next hset =>
      cases hf
      refine .failed (fun hholds => ?_) (List.mem_singleton_self _) nofun ?_ ?_
      · obtain ⟨selector, hselector⟩ := Option.isSome_iff_exists.mp hset
        obtain ⟨b, hb, hselector⟩ := Option.bind_eq_some_iff.mp hselector
        exact nomatch (hholds b hb).symm.trans hselector
      · exact iff_of_false nofun id
      · exact iff_of_false nofun id
    · cases hf

theorem ends_console (hserves : Serves h c.ns w Q) :
    Ends h Q (check config c console) (Judged config w c console) := by
  unfold check Validity.console
  dsimp only
  split
  · next hssl =>
    refine Ends.getSecret hserves ?_
    cases hfound : w.secrets (ClusterNames.ofCluster c).consoleSecret with
    | none =>
      refine .throw (.failed (fun hholds => ?_) (List.mem_singleton_self _) nofun ?_ ?_)
      · obtain ⟨held, hheld, -⟩ := hholds hssl
        exact nomatch hfound.symm.trans hheld
      · exact iff_of_false nofun id
      · exact iff_of_true rfl hfound
    | some held =>
      dsimp only
      split
      · next hcomplete =>
        exact .pure (.passed fun _ => ⟨held, hfound, absentConsoleKeys_eq_nil_iff.mp hcomplete⟩)
      · next hincomplete =>
        refine .throw (.failed (fun hholds => ?_) (List.mem_singleton_self _) nofun ?_ ?_)
        · obtain ⟨held', hheld', hcomplete⟩ := hholds hssl
          obtain rfl : held = held' := Option.some.inj (hfound.symm.trans hheld')
          exact hincomplete (absentConsoleKeys_eq_nil_iff.mpr hcomplete)
        · exact iff_of_false nofun id
        · exact iff_of_false nofun fun hnone => nomatch hfound.symm.trans hnone
  · next hssl => exact .pure (.passed fun h => absurd h hssl)

theorem ends_images : Ends h Q (check config c images) (Judged config w c images) := by
  refine .report (fun hnone => ?_) fun f hf => ?_
  · have hjudged := version_judged c.spec
    rw [hnone] at hjudged
    cases hjudged with
    | settled hsettled => exact .passed hsettled
  · have hjudged := version_judged c.spec
    rw [hf] at hjudged
    cases hjudged with
    | ambiguous hambiguous hreason hstatus hretry =>
      refine .failed (fun hholds => not_ambiguous_of_settled hholds hambiguous) ?_
        (by simp [hstatus]) ?_ ?_
      · exact List.mem_cons_of_mem _ hreason
      · exact iff_of_true hstatus hambiguous
      · exact iff_of_false (by simp [hretry]) id
    | unsupported hversion hunsupported hreason hstatus hretry =>
      have hnot {declared : String} (hdeclared : DeclaresVersion c.spec declared) :
          (Version.resolve? declared).isSome ≠ true := by
        obtain rfl := Option.some.inj (hversion.1.symm.trans hdeclared.1)
        simp [hunsupported]
      refine .failed (fun hholds => ?_) (by simp [hreason, reasons]) (by simp [hstatus])
        (iff_of_false (by simp [hstatus]) fun hambiguous => ?_) (iff_of_false (by simp [hretry]) id)
      · cases hholds with
        | declared hdeclared hsupported _ _ => exact hnot hdeclared hsupported
        | undeclared hnone _ => exact hnone _ hversion
      · cases hambiguous with
        | conflict hdeclared hsupported _ => exact hnot hdeclared hsupported
        | unpaired hnone _ => exact hnone _ hversion

theorem ends_check (hserves : Serves h c.ns w Q) (g : Group) :
    Ends h Q (g.check config c) (g.Judged config w c) := by
  cases g with
  | fields => exact ends_fields
  | mounts => exact ends_mounts hserves
  | budget => exact ends_budget
  | console => exact ends_console hserves
  | images => exact ends_images

end Checked

end Group

/-! ## The verdict -/

section Verdict

variable {σ : Type} {h : Handler surroundings σ} {Q : σ → Prop} {config : Config} {w : Contents}
  {c : Cluster} {s : σ}

/-- What the checks of a cluster come to: that of the first group that fails, if one does. -/
theorem ends_checks (config : Config) (hserves : Serves h c.ns w Q) :
    Ends h Q (checks config c) fun r =>
      (r = .ok () ∧ ∀ g : Group, g.Holds config w c) ∨
        ∃ g f, r = .error f ∧ FirstFailing (Group.Holds config w c) Group.inOrder g ∧
          g.Judged config w c (.error f) := by
  rw [Group.checks_eq]
  refine (Ends.mapM (Group.ends_check hserves) _).bind (fun bs hbs => .pure (.inl ⟨rfl, ?_⟩))
    fun f hf => ?_
  · obtain ⟨hall, -⟩ := hbs.of_ok (fun _ => ()) fun g b hg => ⟨hg.holds, rfl⟩
    exact fun g => hall g (by cases g <;> decide)
  · obtain ⟨g, hfirst, hg⟩ := hf.of_error (fun g b hg => hg.holds) fun g f hg => hg.not_holds
    exact .inr ⟨g, f, rfl, hfirst, hg⟩

/-- The verdict on a cluster, in a store that can be read: the cluster is valid exactly if all
groups of checks find nothing. Otherwise the reason is one of the first group that fails and of no
other, the verdict stays open exactly if it is ambiguous which image is meant, and the check is to
be repeated exactly if that group fails by an object that does not exist. -/
theorem validate_verdict (config : Config) (hserves : Serves h c.ns w Q) (hs : Q s) :
    ∃ v, Task.outcome h (validate config c) s = .ok v ∧
      (v.isValid = true ↔ ∀ g : Group, g.Holds config w c) ∧
      (v.isValid = true → v.retry = false) ∧
      (v.isValid = false → ∃ g, FirstFailing (Group.Holds config w c) Group.inOrder g ∧
        (∀ g' : Group, v.condition.reason ∈ g'.words ↔ g' = g) ∧
        (v.condition.status = .unknown ↔ g.Ambiguous c) ∧
        (v.retry = true ↔ g.Awaits config w c)) := by
  obtain ⟨r, hr, hjudged, -⟩ := ends_checks config hserves s hs
  refine ⟨outcome (h .clock (Task.after h (checks config c).run s)).1 c.generation r, ?_, ?_⟩
  · rw [validate, Task.outcome_bind_ok _ hr, Task.outcome_bind_ok _ (Task.outcome_lift _ _ _)]
    rfl
  · obtain ⟨rfl, hall⟩ | ⟨g, f, rfl, hfirst, hg⟩ := hjudged
    · exact ⟨iff_of_true rfl hall, fun _ => rfl, nofun⟩
    · cases hg with
      | failed hnot hreason hstatus hambiguous hretry =>
        have hinvalid : (outcome (h .clock (Task.after h (checks config c).run s)).1 c.generation
            (.error f)).isValid = false := by
          simpa [outcome, Validation.isValid, Condition.isTrue, Condition.stated] using hstatus
        refine ⟨iff_of_false (by simp [hinvalid]) fun hall => hnot (hall g), ?_, fun _ => ?_⟩
        · intro hvalid
          exact nomatch hinvalid.symm.trans hvalid
        · have hword : f.reason.render ∈ g.words := List.mem_map_of_mem hreason
          refine ⟨g, hfirst, fun g' => ⟨fun hword' => ?_, ?_⟩, hambiguous, hretry⟩
          · exact Group.eq_of_mem_words hword' hword
          · rintro rfl
            exact hword

end Verdict

def encryptedCluster : Cluster where
  metadata := { name := some "broker", ns := some "test-ns" }
  spec := { console := { sslEnabled := true } }

/-- A namespace that holds nothing. -/
def emptyContents : Contents := ⟨fun _ => none, fun _ => none⟩

/-- In an empty namespace, an encrypted cluster awaits its console secret. -/
theorem validate_verdict_encryptedCluster :
    Serves (holding emptyContents) encryptedCluster.ns emptyContents (fun _ => True) ∧
      ∃ v, Task.outcome (holding emptyContents) (validate {} encryptedCluster) () = .ok v ∧
        v.isValid = false ∧ v.retry = true ∧ v.condition.reason ∈ Group.console.words := by
  have hserves := serves_holding encryptedCluster.ns emptyContents
  obtain ⟨v, hv, hvalid, -, hinvalid⟩ := validate_verdict {} hserves trivial (s := ())
  have hfields : encryptedCluster.spec.WellFormed :=
    ClusterSpec.violations_eq_nil_iff.mp (by decide)
  have hmounts : MountsSound {} emptyContents encryptedCluster.spec.deploymentPlan.extraMounts :=
    ⟨nofun, by decide, by decide⟩
  have hconsole : ¬ Group.console.Holds {} emptyContents encryptedCluster := by
    intro hholds
    obtain ⟨held, hheld, -⟩ := hholds rfl
    cases hheld
  have hfirst : FirstFailing (Group.Holds {} emptyContents encryptedCluster)
      Group.inOrder .console :=
    .tail hfields (.tail hmounts (.tail nofun (.head hconsole)))
  have hnot : v.isValid = false := by
    refine eq_false_of_ne_true fun htrue => ?_
    exact hconsole (hvalid.mp htrue .console)
  obtain ⟨g, hg, hreason, -, hretry⟩ := hinvalid hnot
  obtain rfl := hg.unique hfirst
  exact ⟨hserves, v, hv, hnot, hretry.mpr rfl, (hreason .console).mpr rfl⟩

end BrokerFleet.Validity
