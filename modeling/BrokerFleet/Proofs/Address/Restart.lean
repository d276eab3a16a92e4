import BrokerFleet.Proofs.Address.Window

/-! # Restarts

A controller that is started anew remembers nothing, but the records are still in the store. An
invalidation changes the memory and leaves the record alone: the next apply of the same controller
synchronizes, the first apply of a new one takes the record's word. -/

namespace BrokerFleet

open AddressLifecycle Keeping

variable {σ : Type} {h : Handler surroundings σ} {config : Config} {a : Address}
  {m m' : AddressMemory}
  {s : σ} {log : List surroundings.Reply} {outcome : Except Failure Action}

/-! ## What is remembered -/

/-- Whether a deployment is remembered after an effect. -/
def Effect.remembered : Effect → Bool
  | forgotten => false
  | synced _ | seeded _ | failed | invalidated => true

theorem contains_of_applied (happlied : Applied h config a m log outcome m') (k : ObjectKey) :
    m'.deployments.contains k = toldAfter Effect.remembered k
      (Passage.events ⟨.apply a, log, outcome.toBool⟩) (m.deployments.contains k) := by
  cases happlied with
  | refused => rfl
  | unchanged => rfl
  | seeded hvalid hstale selector hrecord =>
    simp [Passage.events, Request.looksForCluster, Passage.recordListed?, hrecord,
      toldAfter_singleton, contains_tracked, Effect.remembered]
  | failed =>
    rw [events_of_synchronized (List.suffix_append _ _).isInfix, toldAfter_singleton,
      contains_tracked]
    rfl
  | synced =>
    rw [events_of_synchronized (List.infix_append' _ _ _), toldAfter_singleton, contains_tracked,
      contains_tracked]
    by_cases hk : a.metadata.key = k <;> simp [hk, Except.toBool, Effect.remembered]

theorem contains_of_cleaned (hcleaned : Cleaned a m log outcome m') (k : ObjectKey) :
    m'.deployments.contains k = toldAfter Effect.remembered k
      (Passage.events ⟨.cleanup a, log, outcome.toBool⟩) (m.deployments.contains k) := by
  cases hcleaned with
  | failed => rfl
  | forgotten =>
    simp [Passage.events, Except.toBool, toldAfter_singleton, contains_forgotten, Effect.remembered]

/-- The events of an operation tell the deployments that it leaves remembered. -/
theorem contains_of_performed {p : Passage} (hperformed : Performed h config m s p m')
    (k : ObjectKey) :
    m'.deployments.contains k =
      toldAfter Effect.remembered k p.events (m.deployments.contains k) := by
  cases hperformed with
  | applied happlied => exact contains_of_applied happlied k
  | cleaned hcleaned => exact contains_of_cleaned hcleaned k
  | noticed hnoticed =>
    rw [Passage.events, toldAfter_map, Bool.eq_iff_iff, contains_of_noticed hnoticed k]
    simp [Effect.remembered]

/-- A deployment that was invalidated last is remembered, and has to be applied. -/
theorem invalidated_of_lastEffect {turns : List (Turn σ)} {k : ObjectKey}
    (hlast : lastEffect k ((carryOut h config turns m s).1.flatMap Passage.events) =
      some .invalidated) :
    (carryOut h config turns m s).2.1.deployments.contains k = true ∧
      (carryOut h config turns m s).2.1.checksum k = none := by
  constructor
  · have htold := carryOut_told h config (fun m => m.deployments.contains k)
      (fun op m s => contains_of_performed (perform_performed h config op m s) k) turns m s
    rw [htold, toldAfter, hlast]
    rfl
  · rw [carryOut_checksum, checksumAfter, hlast]
    rfl

/-! ## Which applies synchronize -/

/-- An apply synchronizes, whatever that comes to. -/
def Synchronizes (h : Handler surroundings σ) (config : Config) (a : Address) (m : AddressMemory)
    (s : σ) : Prop :=
  ∃ outcome, Synchronized h config a (perform h config (.apply a) m s).1.log outcome

theorem not_synchronized_of_unlooked (hlog : ∀ x ∈ log, x.1.looksForCluster = false)
    (outcome : Except Failure Unit) : ¬ Synchronized h config a log outcome := by
  rintro ⟨s, hpart, -⟩
  obtain ⟨x, hx, hlooks⟩ := looksForCluster_of_synchronized hpart
  rw [hlog x hx] at hlooks
  cases hlooks

theorem not_synchronizes_of_unlooked
    (hlog : ∀ x ∈ (perform h config (.apply a) m s).1.log, x.1.looksForCluster = false) :
    ¬ Synchronizes h config a m s := by
  rintro ⟨outcome, hsynchronized⟩
  exact not_synchronized_of_unlooked hlog outcome hsynchronized

theorem synchronizes_of_unmatched (hvalid : a.spec.violations = []) (hstale : isApplied m a = false)
    {looked : List surroundings.Reply} (hlooked : ∀ x ∈ looked, IsListing x) {s₁ : σ}
    (hmatched : Runs h (matchesRecord m a) m s looked (.ok false) m s₁) :
    Synchronizes h config a m s := by
  obtain ⟨log, outcome, m', s', hruns, -, hpart⟩ :=
    apply_of_unmatched config hvalid hstale hlooked hmatched
  unfold Synchronizes
  rw [perform_of_runs rfl hruns]
  exact ⟨_, s₁, hpart, rfl⟩

theorem perform_apply_of_applied (hvalid : a.spec.violations = [])
    (happlied : isApplied m a = true) :
    perform h config (.apply a) m s = (⟨.apply a, [], true⟩, m, s) :=
  perform_of_runs rfl (apply_runs_of_applied config hvalid happlied s)

theorem perform_apply_of_recorded (hvalid : a.spec.violations = [])
    (huntracked : m.deployments.contains a.metadata.key = false) (hrecorded : Recorded h a s) :
    perform h config (.apply a) m s =
      (⟨.apply a, [⟨listing a.metadata.key, (h (listing a.metadata.key) s).1⟩], true⟩,
        tracked a (some (versionOf a)) m, (h (listing a.metadata.key) s).2) :=
  perform_of_runs rfl (apply_runs_of_recorded config hvalid huntracked hrecorded)

/-- An apply of a valid declaration synchronizes exactly if its version is not the one applied last,
and the declaration is remembered or has no record of that version. -/
theorem synchronizes_iff (hvalid : a.spec.violations = []) :
    Synchronizes h config a m s ↔ isApplied m a = false ∧
      (m.deployments.contains a.metadata.key = true ∨ ¬ Recorded h a s) := by
  cases happlied : isApplied m a with
  | true =>
    refine iff_of_false (not_synchronizes_of_unlooked ?_) (by simp)
    rw [perform_apply_of_applied hvalid happlied]
    simp
  | false =>
    cases htracked : m.deployments.contains a.metadata.key with
    | true =>
      -- the record of a declaration that is remembered is not asked for
      have hmatched := matchesRecord_runs_of_tracked h htracked s
      exact iff_of_true (synchronizes_of_unmatched hvalid happlied (by simp) hmatched) (by simp)
    | false =>
      by_cases hrecorded : Recorded h a s
      · refine iff_of_false (not_synchronizes_of_unlooked ?_) (by simp [hrecorded])
        rw [perform_apply_of_recorded hvalid htracked hrecorded]
        exact fun x hx => (isListing_of_mem x hx).unlooked
      · have hmatched := matchesRecord_runs_of_untracked h htracked s
        rw [Bool.eq_false_iff.mpr hrecorded] at hmatched
        exact iff_of_true (synchronizes_of_unmatched hvalid happlied isListing_of_mem hmatched)
          (by simp [hrecorded])

/-- The first apply of a new controller synchronizes exactly if there is no record of the
version. -/
theorem synchronizes_anew_iff (hvalid : a.spec.violations = []) :
    Synchronizes h config a {} s ↔ ¬ Recorded h a s := by
  have huntracked : ({} : AddressMemory).deployments.contains a.metadata.key = false := rfl
  simp [synchronizes_iff hvalid, isApplied_of_untracked huntracked, huntracked]

/-! ## Who writes a record -/

/-- A request that writes the record of an address, or deletes it. -/
def WritesRecord (k : ObjectKey) (r : Request) : Prop :=
  (∃ map, CreatesRecord k map r) ∨ r = .deleteConfigMap ⟨k.ns, Record.nameOf k recordKind⟩

/-- An operation that may write the record of an address. -/
def Operation.Concerns (k : ObjectKey) : Operation → Prop
  | apply a | cleanup a => a.metadata.key = k
  | pod _ => False

theorem not_writesRecord_of_readOrCall {k : ObjectKey} {r : Request} (hr : r.isReadOrCall = true) :
    ¬ WritesRecord k r := by
  rintro (⟨map, hcreates⟩ | rfl)
  · rw [hcreates.not_readOrCall] at hr
    cases hr
  · cases hr

theorem not_writesRecord_of_send {k : ObjectKey} {t : Trigger} : ¬ WritesRecord k (.send t) := by
  rintro (⟨map, hcreates⟩ | hdeletes)
  · cases hcreates.1
  · cases hdeletes

theorem eq_of_writesRecord_delete {k k' : ObjectKey}
    (hwrites : WritesRecord k (.deleteConfigMap ⟨k'.ns, Record.nameOf k' recordKind⟩)) :
    k = k' := by
  obtain ⟨map, hcreates⟩ | hdeletes := hwrites
  · cases hcreates.1
  · injection hdeletes with hkey
    injection hkey with hns hname
    exact eq_of_nameOf_eq recordKind hns.symm hname.symm

/-- The record of an address is written by operations on its declaration only. -/
theorem concerns_of_performed {p : Passage} (hperformed : Performed h config m s p m')
    {x : surroundings.Reply} (hx : x ∈ p.log) {k : ObjectKey} (hwrites : WritesRecord k x.1) :
    p.operation.Concerns k := by
  cases hperformed with
  | @applied a _ _ _ happlied =>
    obtain hasked | hdelete | hcreate := mem_of_applied happlied hx
    · exact absurd hwrites (not_writesRecord_of_readOrCall hasked)
    · rw [hdelete] at hwrites
      exact (eq_of_writesRecord_delete hwrites).symm
    · rw [hcreate] at hwrites
      obtain ⟨map, hcreates⟩ | hdeletes := hwrites
      · exact (createsRecord_toConfigMap (r := recordOf a) rfl hcreates).1.symm
      · cases hdeletes
  | cleaned hcleaned =>
    have hnot : ∀ {asked : List surroundings.Reply},
        (∀ y ∈ asked, y.1.isReadOrCall = true) → x ∉ asked :=
      fun hasked hx => not_writesRecord_of_readOrCall (hasked x hx) hwrites
    cases hcleaned with
    | failed hlog => exact absurd hx (hnot hlog)
    | forgotten hlog deleted =>
      obtain rfl := List.mem_singleton.mp ((List.mem_append.mp hx).resolve_left (hnot hlog))
      exact (eq_of_writesRecord_delete hwrites).symm
  | noticed hnoticed =>
    obtain hget | ⟨t, hsend⟩ := mem_of_noticed hnoticed hx
    · exact not_writesRecord_of_readOrCall (by rw [hget]; rfl) hwrites
    · exact not_writesRecord_of_send (hsend ▸ hwrites)

/-! ## A restart after an invalidation -/

/-- In states of a kind the store lists a record of the version of a declaration, and only a request
that writes this record leaves these states. -/
structure KeepsRecord (h : Handler surroundings σ) (a : Address) (Q : σ → Prop) : Prop where
  recorded : ∀ s, Q s → Recorded h a s
  kept : ∀ r, ¬ WritesRecord a.metadata.key r → ∀ s, Q s → Q (h r s).2

/-- Turns that leave the record of a declaration alone. -/
def Spares (a : Address) (Q : σ → Prop) (turns : List (Turn σ)) : Prop :=
  ∀ t ∈ turns, ¬ t.operation.Concerns a.metadata.key ∧ ∀ s, Q s → Q (t.meanwhile s)

theorem KeepsRecord.step {Q : σ → Prop} (hkeeps : KeepsRecord h a Q) {op : Operation}
    (hspared : ¬ op.Concerns a.metadata.key) (hs : Q s) : Q (perform h config op m s).2.2 := by
  have hlog : ∀ x ∈ (perform h config op m s).1.log, ¬ WritesRecord a.metadata.key x.1 :=
    fun x hx hwrites =>
      hspared (concerns_of_performed (perform_performed h config op m s) hx hwrites)
  exact Program.preserves_of_transcript (I := surroundings) (p := op.course config m)
    hkeeps.kept hlog hs

theorem KeepsRecord.run {Q : σ → Prop} (hkeeps : KeepsRecord h a Q) {turns : List (Turn σ)}
    (hspares : Spares a Q turns) (hs : Q s) : Q (carryOut h config turns m s).2.2 := by
  induction turns generalizing m s with
  | nil => exact hs
  | cons t rest ih =>
    obtain ⟨⟨hspared, hmeanwhile⟩, hrest⟩ := List.forall_mem_cons.mp hspares
    exact ih hrest (hkeeps.step hspared (hmeanwhile s hs))

/-- Where a declaration was invalidated last, the controller that remembers this synchronizes at the
next apply. A new controller does not: the invalidation left the record as it was, and its first
apply synchronizes only if there is none. -/
theorem restart_after_invalidation (config : Config) (hvalid : a.spec.violations = [])
    {Q : σ → Prop} (hkeeps : KeepsRecord h a Q) {turns : List (Turn σ)} (hspares : Spares a Q turns)
    (hs : Q s) (m : AddressMemory) :
    let later := carryOut h config turns m s
    (lastEffect a.metadata.key (later.1.flatMap Passage.events) = some .invalidated →
      ∀ s', Synchronizes h config a later.2.1 s') ∧
      ¬ Synchronizes h config a {} later.2.2 ∧
      ∀ s', Synchronizes h config a {} s' ↔ ¬ Recorded h a s' := by
  intro later
  refine ⟨fun hlast s' => ?_, ?_, fun s' => synchronizes_anew_iff hvalid⟩
  · obtain ⟨hcontains, hchecksum⟩ := invalidated_of_lastEffect hlast
    refine (synchronizes_iff hvalid).mpr ⟨?_, .inl hcontains⟩
    rw [Bool.eq_false_iff, ne_eq, isApplied_iff, hchecksum]
    exact nofun
  · rw [synchronizes_anew_iff hvalid, Classical.not_not]
    exact hkeeps.recorded _ (hkeeps.run hspares hs)

/-- A fleet of one replica whose store has the record of an address. -/
def recordKept : Handler surroundings Unit
  | .listConfigMaps _ _, s => (.ok [(recordOf plainAddress).toConfigMap], s)
  | r, s => oneReplica r s

theorem recorded_recordKept : Recorded recordKept plainAddress () := by
  unfold Recorded
  decide +kernel

theorem keepsRecord_recordKept : KeepsRecord recordKept plainAddress fun _ => True where
  recorded _ _ := recorded_recordKept
  kept _ _ _ _ := trivial

theorem restart_after_invalidation_returningPod :
    let applied := perform recordKept {} (.apply plainAddress) {} ()
    let turns : List (Turn Unit) := [⟨id, .pod returningPod⟩]
    let later := carryOut recordKept {} turns applied.2.1 ()
    plainAddress.spec.violations = [] ∧ KeepsRecord recordKept plainAddress (fun _ => True) ∧
      Spares plainAddress (fun _ => True) turns ∧
      lastEffect plainAddress.metadata.key (later.1.flatMap Passage.events) = some .invalidated ∧
      Synchronizes recordKept {} plainAddress later.2.1 () ∧
      ¬ Synchronizes recordKept {} plainAddress {} later.2.2 := by
  intro applied turns later
  have hspares : Spares plainAddress (fun _ => True) turns := by
    simp [turns, Spares, Operation.Concerns]
  have hlast : lastEffect plainAddress.metadata.key (later.1.flatMap Passage.events) =
      some .invalidated := by decide +kernel
  obtain ⟨hsame, hanew, -⟩ := restart_after_invalidation {} rfl keepsRecord_recordKept hspares
    (s := ()) trivial applied.2.1
  exact ⟨rfl, keepsRecord_recordKept, hspares, hlast, hsame hlast (), hanew⟩

/-- A fleet of one replica whose state is the config maps in the store. -/
def storing : Handler surroundings (List ConfigMap)
  | .listConfigMaps _ _, maps => (.ok maps, maps)
  | .createConfigMap _ map, maps => (.ok (), map :: maps)
  | .deleteConfigMap k, maps => (.ok (), maps.filter fun map => map.metadata.key ≠ k)
  | r, maps => ((oneReplica r ()).1, maps)

/-- An address is brought to its replica, a pod that comes back invalidates it, and a pass is asked
for. A controller that is started anew before that pass does not synchronize in it. -/
theorem invalidation_lost_on_restart :
    let run := carryOut storing {} [⟨id, .apply plainAddress⟩, ⟨id, .pod returningPod⟩] {} []
    run.1.flatMap Passage.events = [⟨plainAddress.metadata.key, .synced (versionOf plainAddress)⟩,
        ⟨plainAddress.metadata.key, .invalidated⟩] ∧
      ¬ Synchronizes storing {} plainAddress {} run.2.2 := by
  intro run
  have hrecorded : Recorded storing plainAddress run.2.2 := by
    unfold Recorded
    decide +kernel
  refine ⟨by decide +kernel, ?_⟩
  rw [synchronizes_anew_iff rfl, Classical.not_not]
  exact hrecorded

end BrokerFleet
