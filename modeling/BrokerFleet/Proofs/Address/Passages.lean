import BrokerFleet.Proofs.Address.Requests
import BrokerFleet.Proofs.Program.Keeping

/-! # What the operations of the address controller do

Each way in which an apply can go is told by what it asked, what it came to and what is remembered
afterwards; the same for a cleanup. -/

namespace BrokerFleet

variable {σ : Type}

/-- The version of a deployment that was applied last, if it need not be applied again. -/
def AddressMemory.checksum (m : AddressMemory) (k : ObjectKey) : Option String :=
  (m.deployments.get? k).bind Deployment.checksum

namespace AddressLifecycle

open Keeping

/-! ## Memory -/

/-- A memory in which a declaration is remembered with a version or without. -/
def tracked (a : Address) (checksum : Option String) (m : AddressMemory) : AddressMemory :=
  { m with
    deployments := m.deployments.insert a.metadata.key
      { spec := a.spec, selector := .ofNames a.spec.applyToClusterNames, checksum } }

/-- A memory without a deployment. -/
def forgotten (k : ObjectKey) (m : AddressMemory) : AddressMemory :=
  { m with deployments := m.deployments.erase k }

theorem checksum_insert (m : AddressMemory) (k' : ObjectKey) (d : Deployment) (k : ObjectKey) :
    AddressMemory.checksum { m with deployments := m.deployments.insert k' d } k =
      if k' = k then d.checksum else m.checksum k := by
  unfold AddressMemory.checksum
  by_cases h : k' = k
  · subst h
    simp
  · rw [if_neg h, Dict.get?_insert_of_ne _ _ (Ne.symm h)]

theorem checksum_tracked (a : Address) (checksum : Option String) (m : AddressMemory)
    (k : ObjectKey) :
    (tracked a checksum m).checksum k = if a.metadata.key = k then checksum else m.checksum k :=
  checksum_insert m _ _ k

theorem checksum_forgotten (k' : ObjectKey) (m : AddressMemory) (k : ObjectKey) :
    (forgotten k' m).checksum k = if k' = k then none else m.checksum k := by
  unfold AddressMemory.checksum forgotten
  by_cases h : k' = k
  · subst h
    simp
  · rw [if_neg h, Dict.get?_erase_of_ne _ (Ne.symm h)]

theorem contains_tracked (a : Address) (checksum : Option String) (m : AddressMemory)
    (k : ObjectKey) :
    (tracked a checksum m).deployments.contains k =
      if a.metadata.key = k then true else m.deployments.contains k := by
  unfold Dict.contains tracked
  by_cases hk : a.metadata.key = k
  · simp [hk]
  · simp [hk, Dict.get?_insert_of_ne _ _ (Ne.symm hk)]

theorem contains_forgotten (k' : ObjectKey) (m : AddressMemory) (k : ObjectKey) :
    (forgotten k' m).deployments.contains k = if k' = k then false
      else m.deployments.contains k := by
  unfold Dict.contains forgotten
  by_cases hk : k' = k
  · simp [hk]
  · simp [hk, Dict.get?_erase_of_ne _ (Ne.symm hk)]

theorem isApplied_iff {m : AddressMemory} {a : Address} :
    isApplied m a = true ↔ m.checksum a.metadata.key = some (versionOf a) := by
  unfold isApplied AddressMemory.checksum
  cases m.deployments.get? a.metadata.key <;> simp

theorem isApplied_of_untracked {m : AddressMemory} {a : Address}
    (huntracked : m.deployments.contains a.metadata.key = false) : isApplied m a = false := by
  unfold isApplied
  cases hget : m.deployments.get? a.metadata.key with
  | none => rfl
  | some d => simp [Dict.contains, hget] at huntracked

/-! ## Records -/

/-- The record of an address among config maps. -/
def recordIn (k : ObjectKey) (maps : List ConfigMap) : Option Record :=
  (maps.find? fun m => m.metadata.anyName == Record.nameOf k recordKind).bind
    (Record.ofConfigMap? k recordKind)

def IsListing (x : surroundings.Reply) : Prop := ∃ ns selector, x.1 = .listConfigMaps ns selector

theorem IsListing.unlooked {x : surroundings.Reply} (hx : IsListing x) :
    x.1.looksForCluster = false := by
  obtain ⟨ns, selector, hlists⟩ := hx
  rw [hlists]
  rfl

theorem IsListing.isReadOrCall {x : surroundings.Reply} (hx : IsListing x) :
    x.1.isReadOrCall = true := by
  obtain ⟨ns, selector, hlists⟩ := hx
  rw [hlists]
  rfl

def listing (k : ObjectKey) : Request :=
  .listConfigMaps k.ns (selectorOf (Record.labelsOf (addressLabels k.name) recordKind))

/-- Whether a listing has a record of the version of a declaration. -/
def recordedIn (a : Address) : Except Failure (List ConfigMap) → Bool
  | .error _ => false
  | .ok maps => (recordIn a.metadata.key maps).any (·.checksum == versionOf a)

/-- The store lists a record of the version of a declaration. -/
def Recorded (h : Handler surroundings σ) (a : Address) (s : σ) : Prop :=
  recordedIn a (h (listing a.metadata.key) s).1 = true

theorem recordedIn_iff {a : Address} {answer : Except Failure (List ConfigMap)} :
    recordedIn a answer = true ↔ ∃ maps record, answer = .ok maps ∧
      recordIn a.metadata.key maps = some record ∧ record.checksum = versionOf a := by
  rcases answer with e | maps <;> simp [recordedIn, Option.any_eq_true]

theorem matchesRecord_runs_of_tracked (h : Handler surroundings σ) {a : Address} {m : AddressMemory}
    (htracked : m.deployments.contains a.metadata.key = true) (s : σ) :
    Runs h (matchesRecord m a) m s [] (.ok false) m s := by
  unfold matchesRecord
  rw [if_pos htracked]
  exact .pure h _ m s

/-- The comparison of a declaration that is not remembered with its record is one listing. -/
theorem run_matchesRecord {a : Address} {m : AddressMemory}
    (huntracked : m.deployments.contains a.metadata.key = false) :
    (matchesRecord m a).run.run m = .ask (I := surroundings) (listing a.metadata.key) fun answer =>
      .done (.ok (recordedIn a answer), m) := by
  unfold matchesRecord
  rw [if_neg (by simp [huntracked])]
  refine congrArg (Program.ask _) (funext fun answer => ?_)
  rcases answer with e | maps <;> rfl

theorem matchesRecord_runs_of_untracked (h : Handler surroundings σ) {a : Address}
    {m : AddressMemory} (huntracked : m.deployments.contains a.metadata.key = false) (s : σ) :
    Runs h (matchesRecord m a) m s [⟨listing a.metadata.key, (h (listing a.metadata.key) s).1⟩]
      (.ok (recordedIn a (h (listing a.metadata.key) s).1)) m (h (listing a.metadata.key) s).2 := by
  constructor <;> rw [run_matchesRecord huntracked] <;> rfl

theorem transcript_store (h : Handler surroundings σ) (r : Record) (s : σ) :
    ∃ deleted created, Task.transcript h r.store s =
      ⟨.deleteConfigMap ⟨r.owner.ns, r.name⟩, deleted⟩ :: created ∧
      (created = [] ∨ ∃ answer, created =
        [⟨.createConfigMap r.owner.ns r.toConfigMap, answer⟩]) := by
  cases hdeleted : (h (.deleteConfigMap ⟨r.owner.ns, r.name⟩) s).1 with
  | error e =>
    have hstep : Task.outcome h (Task.deleteConfigMap ⟨r.owner.ns, r.name⟩) s = .error e := hdeleted
    rw [Record.store, Task.transcript_bind_error _ hstep]
    exact ⟨_, [], rfl, .inl rfl⟩
  | ok v =>
    have hstep : Task.outcome h (Task.deleteConfigMap ⟨r.owner.ns, r.name⟩) s = .ok v := hdeleted
    rw [Record.store, Task.transcript_bind_ok _ hstep]
    exact ⟨_, _, rfl, .inr ⟨_, rfl⟩⟩

/-! ## Applying -/

abbrev synchronization (config : Config) (a : Address) : Task Unit :=
  AddressSync.ensure config.clusterDomain a.metadata.key.ns a.spec

/-- How an apply went: what it asked, what it came to, and what is remembered. It was refused for
its violations, passed over, or seeded from a record; else the synchronization failed, or it
succeeded and a record was kept. -/
inductive Applied (h : Handler surroundings σ) (config : Config) (a : Address) (m : AddressMemory) :
    List surroundings.Reply → Except Failure Action → AddressMemory → Prop where
  | refused (hviolated : a.spec.violations ≠ []) :
      Applied h config a m [] (.error (.invalidConfig (Violation.renderAll a.spec.violations))) m
  | unchanged (hvalid : a.spec.violations = []) (happlied : isApplied m a = true) :
      Applied h config a m [] (.ok (.requeueAfter config.resyncMillis)) m
  | seeded (hvalid : a.spec.violations = []) (hstale : isApplied m a = false) (selector : String)
      {maps : List ConfigMap} {record : Record}
      (hrecord : recordIn a.metadata.key maps = some record)
      (hchecksum : record.checksum = versionOf a) :
      Applied h config a m [⟨.listConfigMaps a.metadata.key.ns selector, .ok maps⟩]
        (.ok (.requeueAfter config.resyncMillis)) (tracked a (some (versionOf a)) m)
  | failed (hvalid : a.spec.violations = []) (hstale : isApplied m a = false)
      {looked : List surroundings.Reply} (hlooked : ∀ x ∈ looked, IsListing x) {s : σ} {e : Failure}
      (hensure : Task.outcome h (synchronization config a) s = .error e) :
      Applied h config a m (looked ++ Task.transcript h (synchronization config a) s) (.error e)
        (tracked a none m)
  | synced (hvalid : a.spec.violations = []) (hstale : isApplied m a = false)
      {looked : List surroundings.Reply} (hlooked : ∀ x ∈ looked, IsListing x) {s : σ}
      (hensure : Task.outcome h (synchronization config a) s = .ok ()) (s' : σ) :
      Applied h config a m
        (looked ++ (Task.transcript h (synchronization config a) s ++
          Task.transcript h (recordOf a).store s'))
        (.ok (.requeueAfter config.resyncMillis))
        (tracked a (some (versionOf a)) (tracked a none m))

theorem begin_runs (h : Handler surroundings σ) (a : Address) (m : AddressMemory) (s : σ) :
    Runs h (begin a) m s [] (.ok ()) (tracked a none m) s := .modify h _ m s

theorem finish_runs (h : Handler surroundings σ) (a : Address) (m : AddressMemory) (s : σ) :
    Runs h (finish a) m s [] (.ok ()) (tracked a (some (versionOf a)) m) s := .modify h _ m s

theorem synchronize_runs (h : Handler surroundings σ) (config : Config) (a : Address)
    (m : AddressMemory) (s : σ) : ∃ s', Runs h (synchronize config a) m s
      (Task.transcript h (synchronization config a) s) (Task.outcome h (synchronization config a) s)
      m s' :=
  ⟨_, .ofTask h _ m s⟩

theorem keepRecord_runs (h : Handler surroundings σ) (a : Address) (m : AddressMemory) (s : σ) :
    ∃ s', Runs h (keepRecord a) m s (Task.transcript h (recordOf a).store s) (.ok ()) m s' := by
  have hstored := Runs.ofTask h (recordOf a).store.attempt m s
  rw [Task.outcome_attempt, Task.transcript_attempt] at hstored
  exact ⟨_, hstored.bind_pure ()⟩

section Apply

variable {h : Handler surroundings σ} (config : Config) {a : Address} {m : AddressMemory} {s s₁ : σ}
  {looked : List surroundings.Reply}

/-- An apply that has to bring the declaration to its replicas does so, and asks for that what a
synchronization asks. -/
theorem apply_of_unmatched (hvalid : a.spec.violations = []) (hstale : isApplied m a = false)
    (hlooked : ∀ x ∈ looked, IsListing x)
    (hmatched : Runs h (matchesRecord m a) m s looked (.ok false) m s₁) :
    ∃ log outcome m' s', Runs h (apply config a) m s log outcome m' s' ∧
      Applied h config a m log outcome m' ∧
      Task.transcript h (synchronization config a) s₁ <:+: log := by
  unfold apply
  simp only [hvalid, ne_eq, not_true_eq_false, if_false]
  obtain ⟨s₂, hsynchronized⟩ := synchronize_runs h config a (tracked a none m) s₁
  cases hensure : Task.outcome h (synchronization config a) s₁ with
  | error e =>
    rw [hensure] at hsynchronized
    refine ⟨_, _, _, s₂, Runs.bind (.get h m s) ?_, .failed hvalid hstale hlooked hensure,
      (List.suffix_append _ _).isInfix⟩
    rw [if_neg (by simp [hstale])]
    exact hmatched.bind ((begin_runs h a m s₁).bind hsynchronized.bind_error)
  | ok v =>
    rw [hensure] at hsynchronized
    obtain ⟨s₃, hkept⟩ := keepRecord_runs h a (tracked a (some (versionOf a)) (tracked a none m)) s₂
    refine ⟨_, _, _, s₃, Runs.bind (.get h m s) ?_, .synced hvalid hstale hlooked hensure s₂,
      List.infix_append' _ _ _⟩
    rw [if_neg (by simp [hstale])]
    exact hmatched.bind ((begin_runs h a m s₁).bind
      (hsynchronized.bind ((finish_runs h a _ s₂).bind (hkept.bind_pure _))))

/-- An apply of a declaration that is not remembered and has a record of its version takes the
record's word for it. -/
theorem apply_runs_of_recorded (hvalid : a.spec.violations = [])
    (huntracked : m.deployments.contains a.metadata.key = false) (hrecorded : Recorded h a s) :
    Runs h (apply config a) m s [⟨listing a.metadata.key, (h (listing a.metadata.key) s).1⟩]
      (.ok (.requeueAfter config.resyncMillis)) (tracked a (some (versionOf a)) m)
      (h (listing a.metadata.key) s).2 := by
  have hmatched := matchesRecord_runs_of_untracked h huntracked s
  rw [hrecorded] at hmatched
  unfold apply
  simp only [hvalid, ne_eq, not_true_eq_false, if_false]
  refine Runs.bind (.get h m s) ?_
  rw [if_neg (by simp [isApplied_of_untracked huntracked])]
  exact hmatched.bind ((finish_runs h a m _).bind_pure _)

theorem apply_runs_of_applied (hvalid : a.spec.violations = []) (happlied : isApplied m a = true)
    (s : σ) :
    Runs h (apply config a) m s [] (.ok (.requeueAfter config.resyncMillis)) m s := by
  unfold apply
  simp only [hvalid, ne_eq, not_true_eq_false, if_false]
  refine Runs.bind (.get h m s) ?_
  rw [if_pos happlied]
  exact .pure h _ m s

theorem apply_runs_of_violations (hviolated : a.spec.violations ≠ []) (m : AddressMemory) (s : σ) :
    Runs h (apply config a) m s [] (.error (.invalidConfig (Violation.renderAll a.spec.violations)))
      m
      s := by
  unfold apply
  simp only [ne_eq, hviolated, not_false_eq_true, if_true]
  exact Runs.bind_error (.throw h _ m s)

theorem isListing_of_mem {a : Address} {answer : Except Failure (List ConfigMap)} :
    ∀ x ∈ [(⟨listing a.metadata.key, answer⟩ : surroundings.Reply)], IsListing x := by
  intro x hx
  obtain rfl := List.mem_singleton.mp hx
  exact ⟨_, _, rfl⟩

end Apply

theorem apply_applied (h : Handler surroundings σ) (config : Config) (a : Address)
    (m : AddressMemory) (s : σ) :
    ∃ log outcome m' s', Runs h (apply config a) m s log outcome m' s' ∧
      Applied h config a m log outcome m' := by
  by_cases hvalid : a.spec.violations = []
  · cases happlied : isApplied m a with
    | true =>
      exact ⟨_, _, _, _, apply_runs_of_applied config hvalid happlied s, .unchanged hvalid happlied⟩
    | false =>
      cases htracked : m.deployments.contains a.metadata.key with
      | true =>
        obtain ⟨log, outcome, m', s', hruns, hway, -⟩ := apply_of_unmatched config hvalid happlied
          (by simp) (matchesRecord_runs_of_tracked h htracked s)
        exact ⟨log, outcome, m', s', hruns, hway⟩
      | false =>
        have hmatched := matchesRecord_runs_of_untracked h htracked s
        cases hrecorded : recordedIn a (h (listing a.metadata.key) s).1 with
        | true =>
          -- only a declaration that is not remembered finds its record
          have hruns := apply_runs_of_recorded config hvalid htracked hrecorded
          obtain ⟨maps, record, hmaps, hrecord, hchecksum⟩ := recordedIn_iff.mp hrecorded
          rw [hmaps] at hruns
          exact ⟨_, _, _, _, hruns, .seeded hvalid happlied _ hrecord hchecksum⟩
        | false =>
          rw [hrecorded] at hmatched
          obtain ⟨log, outcome, m', s', hruns, hway, -⟩ := apply_of_unmatched config hvalid happlied
            isListing_of_mem hmatched
          exact ⟨log, outcome, m', s', hruns, hway⟩
  · exact ⟨_, _, _, _, apply_runs_of_violations config hvalid m s, .refused hvalid⟩

/-- An apply reads, calls replicas, and replaces the record of its declaration. -/
theorem mem_of_applied {h : Handler surroundings σ} {config : Config} {a : Address}
    {m m' : AddressMemory} {log : List surroundings.Reply} {outcome : Except Failure Action}
    (happlied : Applied h config a m log outcome m') {x : surroundings.Reply} (hx : x ∈ log) :
    x.1.isReadOrCall = true ∨
      x.1 = .deleteConfigMap ⟨a.metadata.key.ns, Record.nameOf a.metadata.key recordKind⟩ ∨
      x.1 = .createConfigMap a.metadata.key.ns (recordOf a).toConfigMap := by
  have hensures : ∀ {s}, x ∈ Task.transcript h (synchronization config a) s →
      x.1.isReadOrCall = true :=
    fun hx => (AddressSync.asks_ensure config.clusterDomain a.metadata.key.ns a.spec).transcript h _
      x hx
  cases happlied with
  | refused => cases hx
  | unchanged => cases hx
  | seeded => exact .inl (List.mem_singleton.mp hx ▸ rfl)
  | failed _ _ hlooked =>
    rcases List.mem_append.mp hx with hx | hx
    · exact .inl (hlooked x hx).isReadOrCall
    · exact .inl (hensures hx)
  | synced _ _ hlooked _ s' =>
    rcases List.mem_append.mp hx with hx | hx
    · exact .inl (hlooked x hx).isReadOrCall
    rcases List.mem_append.mp hx with hx | hx
    · exact .inl (hensures hx)
    · obtain ⟨deleted, created, hstored, hcreated⟩ := transcript_store h (recordOf a) s'
      rw [hstored] at hx
      rcases List.mem_cons.mp hx with rfl | hx
      · exact .inr (.inl rfl)
      · obtain rfl | ⟨answer, rfl⟩ := hcreated
        · cases hx
        · exact .inr (.inr (List.mem_singleton.mp hx ▸ rfl))

/-! ## Cleaning up -/

/-- How a cleanup went: what it asked, what it came to, and what is remembered. The address could
not be removed from its replicas, or the deployment is forgotten. -/
inductive Cleaned (a : Address) (m : AddressMemory) :
    List surroundings.Reply → Except Failure Action → AddressMemory → Prop where
  | failed {log : List surroundings.Reply} (hlog : ∀ x ∈ log, x.1.isReadOrCall = true)
      {e : Failure} :
      Cleaned a m log (.error e) m
  | forgotten {log : List surroundings.Reply} (hlog : ∀ x ∈ log, x.1.isReadOrCall = true)
      (deleted : Except Failure Unit) :
      Cleaned a m
        (log ++ [⟨.deleteConfigMap ⟨a.metadata.key.ns, Record.nameOf a.metadata.key recordKind⟩,
          deleted⟩])
        (.ok .awaitChange) (forgotten a.metadata.key m)

theorem removeRecord_runs (h : Handler surroundings σ) (k : ObjectKey) (m : AddressMemory) (s : σ) :
    ∃ deleted outcome s', Runs h (ofTask (Record.remove k recordKind).attempt) m s
      [⟨.deleteConfigMap ⟨k.ns, Record.nameOf k recordKind⟩, deleted⟩] (.ok outcome) m s' := by
  have hdeleted := Runs.ofTask h (Record.remove k recordKind).attempt m s
  rw [Task.outcome_attempt, Task.transcript_attempt] at hdeleted
  exact ⟨_, _, _, hdeleted⟩

theorem cleanup_cleaned (h : Handler surroundings σ) (config : Config) (a : Address)
    (m : AddressMemory) (s : σ) :
    ∃ log outcome m' s', Runs h (cleanup config a) m s log outcome m' s' ∧
      Cleaned a m log outcome m' := by
  unfold cleanup
  by_cases hremove : a.spec.removeFromBrokerOnDelete = true
  · simp only [hremove, if_true]
    have hasked :=
      (AddressSync.asks_remove config.clusterDomain a.metadata.key.ns a.spec).transcript h s
    have hremoved := Runs.ofTask h
      (AddressSync.remove config.clusterDomain a.metadata.key.ns a.spec) m s
    cases houtcome : Task.outcome h
        (AddressSync.remove config.clusterDomain a.metadata.key.ns a.spec) s with
    | error e =>
      rw [houtcome] at hremoved
      exact ⟨_, _, _, _, hremoved.bind_error, .failed hasked⟩
    | ok v =>
      rw [houtcome] at hremoved
      obtain ⟨deleted, outcome, s₂, hdeleted⟩ := removeRecord_runs h a.metadata.key m
        (Task.after h (AddressSync.remove config.clusterDomain a.metadata.key.ns a.spec) s)
      exact ⟨_, _, _, s₂, hremoved.bind (hdeleted.bind ((Runs.modify h _ m s₂).bind_pure _)),
        .forgotten hasked deleted⟩
  · simp only [hremove]
    obtain ⟨deleted, outcome, s₂, hdeleted⟩ := removeRecord_runs h a.metadata.key m s
    have hnothing : ∀ x ∈ ([] : List surroundings.Reply), x.1.isReadOrCall = true := by simp
    exact ⟨_, _, _, s₂, hdeleted.bind ((Runs.modify h _ m s₂).bind_pure _),
      .forgotten hnothing deleted⟩

end AddressLifecycle

end BrokerFleet
