import BrokerFleet.Proofs.Address.Sightings

/-! # The history of an address controller

A run of the controller leaves a history: for each operation what it asked and whether it succeeded.
The events of a deployment are read off the history, and its remembered version is told by the last
of them. -/

namespace BrokerFleet

/-! ## Operations -/

/-- An operation of the address controller. -/
inductive Operation where
  | apply (a : Address)
  | cleanup (a : Address)
  | pod (p : Pod)

/-- An operation that was carried out: what it asked, and whether it succeeded. -/
structure Passage where
  operation : Operation
  log : List surroundings.Reply
  succeeded : Bool

/-- An operation, and how the surroundings change before it. -/
structure Turn (σ : Type) where
  meanwhile : σ → σ
  operation : Operation

namespace Operation

open AddressLifecycle

/-- A task of the controller whose value says whether it succeeded. -/
def ofKeeping (t : Keeping Action) (m : AddressMemory) : Course (Bool × AddressMemory) :=
  (fun r => (r.1.toBool, r.2)) <$> t.run.run m

/-- Carries out an operation; its value says whether it succeeded. -/
def course (config : Config) : Operation → AddressMemory → Course (Bool × AddressMemory)
  | apply a, m => ofKeeping (AddressLifecycle.apply config a) m
  | cleanup a, m => ofKeeping (AddressLifecycle.cleanup config a) m
  | pod p, m => (fun r => (true, r.2)) <$> (onPod p).run m

end Operation

variable {σ : Type}

def perform (h : Handler surroundings σ) (config : Config) (op : Operation) (m : AddressMemory)
    (s : σ) :
    Passage × AddressMemory × σ :=
  let r := (op.course config m).run h s
  (⟨op, (op.course config m).transcript h s, r.1.1⟩, r.1.2, r.2)

/-- Carries out turn after turn: the history, the memory and the state that they lead to. -/
def carryOut (h : Handler surroundings σ) (config : Config) :
    List (Turn σ) → AddressMemory → σ → List Passage × AddressMemory × σ
  | [], m, s => ([], m, s)
  | t :: rest, m, s =>
    let first := perform h config t.operation m (t.meanwhile s)
    let later := carryOut h config rest first.2.1 first.2.2
    (first.1 :: later.1, later.2)

/-! ## Events -/

/-- What happens to a deployment: it is brought to its replicas at a version, or a record of it with
a version is found; it cannot be brought to them, a pod of it comes back, or it is cleaned up. -/
inductive Effect where
  | synced (version : String)
  | seeded (version : String)
  | failed
  | invalidated
  | forgotten
  deriving DecidableEq, Repr

/-- The version that an effect leaves applied. -/
def Effect.checksum : Effect → Option String
  | synced v | seeded v => some v
  | failed | invalidated | forgotten => none

structure Event where
  key : ObjectKey
  effect : Effect
  deriving DecidableEq, Repr

def lastEffect (k : ObjectKey) (events : List Event) : Option Effect :=
  (events.filter fun e => e.key = k).getLast?.map Event.effect

namespace Passage

open AddressLifecycle

/-- The record of an address that a reply lists. -/
def recordListed? (k : ObjectKey) : surroundings.Reply → Option Record
  | ⟨.listConfigMaps ns _, .ok maps⟩ => if ns = k.ns then recordIn k maps else none
  | _ => none

/-- The events of an operation, read off what it asked and whether it succeeded. An apply that looks
for clusters brings the declaration to its replicas; one that does not, but lists a record, is
seeded. -/
def events (p : Passage) : List Event :=
  match p.operation with
  | .apply a =>
    if p.log.any fun x => x.1.looksForCluster then
      [⟨a.metadata.key, if p.succeeded then .synced (versionOf a) else .failed⟩]
    else
      (p.log.findSome? (recordListed? a.metadata.key)).toList.map fun r =>
        ⟨a.metadata.key, .seeded r.checksum⟩
  | .cleanup a => if p.succeeded then [⟨a.metadata.key, .forgotten⟩] else []
  | .pod _ => (triggered p.log).map fun k => ⟨k, .invalidated⟩

end Passage

/-! ## The last event decides -/

section ToldAfter

variable {β : Type} (tell : Effect → β) (k : ObjectKey)

/-- What the last effect on a deployment tells, after events and before. -/
def toldAfter (events : List Event) (before : β) : β := (lastEffect k events).elim before tell

theorem toldAfter_append (xs ys : List Event) (before : β) :
    toldAfter tell k (xs ++ ys) before = toldAfter tell k ys (toldAfter tell k xs before) := by
  unfold toldAfter lastEffect
  rw [List.filter_append, List.getLast?_append]
  cases (ys.filter fun e => e.key = k).getLast? <;> simp

theorem toldAfter_singleton (e : Event) (before : β) :
    toldAfter tell k [e] before = if e.key = k then tell e.effect else before := by
  by_cases h : e.key = k <;> simp [toldAfter, lastEffect, h]

/-- Effects of one kind tell of every deployment that they are on. -/
theorem toldAfter_map (effect : Effect) (keys : List ObjectKey) (before : β) :
    toldAfter tell k (keys.map fun k => ⟨k, effect⟩) before =
      if k ∈ keys then tell effect else before := by
  induction keys generalizing before with
  | nil => rfl
  | cons k' rest ih =>
    rw [List.map_cons, ← List.singleton_append, toldAfter_append, toldAfter_singleton, ih]
    by_cases hk : k' = k <;> simp [hk, eq_comm (a := k)]

end ToldAfter

/-- The version applied last, after events and before. -/
def checksumAfter (k : ObjectKey) (events : List Event) (before : Option String) : Option String :=
  (lastEffect k events).elim before Effect.checksum

theorem checksumAfter_eq (k : ObjectKey) (events : List Event) (before : Option String) :
    checksumAfter k events before = toldAfter Effect.checksum k events before := rfl

theorem checksumAfter_singleton (k : ObjectKey) (e : Event) (before : Option String) :
    checksumAfter k [e] before = if e.key = k then e.effect.checksum else before :=
  toldAfter_singleton Effect.checksum k e before

theorem checksumAfter_eq_some_iff {k : ObjectKey} {events : List Event} {r : String} :
    checksumAfter k events none = some r ↔
      lastEffect k events = some (.synced r) ∨ lastEffect k events = some (.seeded r) := by
  unfold checksumAfter
  cases lastEffect k events with
  | none => simp
  | some e => cases e <;> simp [Effect.checksum]

/-! ## One operation -/

section Perform

open AddressLifecycle Keeping

variable {h : Handler surroundings σ} {config : Config} {m m' : AddressMemory} {s s' : σ}
  {log : List surroundings.Reply} {outcome : Except Failure Action}

theorem perform_of_runs {op : Operation} {t : Keeping Action}
    (hop : op.course config m = Operation.ofKeeping t m) (hruns : Runs h t m s log outcome m' s') :
    perform h config op m s = (⟨op, log, outcome.toBool⟩, m', s') := by
  unfold perform
  simp only [hop, Operation.ofKeeping, Program.map_eq_bind_done, Program.run_bind,
    Program.transcript_bind, hruns.comesTo, hruns.asked, Program.run_done, Program.transcript_done,
    List.append_nil]

theorem perform_pod (h : Handler surroundings σ) (config : Config) (p : Pod) (m : AddressMemory)
    (s : σ) :
    perform h config (.pod p) m s = (⟨.pod p, ((onPod p).run m).transcript h s, true⟩,
      (((onPod p).run m).run h s).1.2, (((onPod p).run m).run h s).2) := by
  unfold perform Operation.course
  simp only [Program.map_eq_bind_done, Program.run_bind, Program.transcript_bind, Program.run_done,
    Program.transcript_done, List.append_nil]

theorem perform_noticed (h : Handler surroundings σ) (config : Config) (p : Pod) (m : AddressMemory)
    (s : σ) : Noticed h p m s (perform h config (.pod p) m s).1.log
      (perform h config (.pod p) m s).2.1 := by
  rw [perform_pod]
  exact onPod_noticed h p m s

/-- How an operation went, and what is remembered. -/
inductive Performed (h : Handler surroundings σ) (config : Config) (m : AddressMemory) (s : σ) :
    Passage → AddressMemory → Prop where
  | applied {a : Address} {log : List surroundings.Reply} {outcome : Except Failure Action}
      {m' : AddressMemory} (happlied : Applied h config a m log outcome m') :
      Performed h config m s ⟨.apply a, log, outcome.toBool⟩ m'
  | cleaned {a : Address} {log : List surroundings.Reply} {outcome : Except Failure Action}
      {m' : AddressMemory} (hcleaned : Cleaned a m log outcome m') :
      Performed h config m s ⟨.cleanup a, log, outcome.toBool⟩ m'
  | noticed {p : Pod} {log : List surroundings.Reply} {m' : AddressMemory}
      (hnoticed : Noticed h p m s log m') : Performed h config m s ⟨.pod p, log, true⟩ m'

theorem perform_performed (h : Handler surroundings σ) (config : Config) (op : Operation)
    (m : AddressMemory) (s : σ) :
    Performed h config m s (perform h config op m s).1 (perform h config op m s).2.1 := by
  cases op with
  | apply a =>
    obtain ⟨log, outcome, m', s', hruns, happlied⟩ := apply_applied h config a m s
    rw [perform_of_runs rfl hruns]
    exact .applied happlied
  | cleanup a =>
    obtain ⟨log, outcome, m', s', hruns, hcleaned⟩ := cleanup_cleaned h config a m s
    rw [perform_of_runs rfl hruns]
    exact .cleaned hcleaned
  | pod p =>
    rw [perform_pod]
    exact .noticed (onPod_noticed h p m s)

theorem looksForCluster_of_synchronized {a : Address}
    (hpart : Task.transcript h (synchronization config a) s <:+: log) :
    ∃ x ∈ log, x.1.looksForCluster = true := by
  obtain ⟨x, hx, hlooks⟩ := AddressSync.ensure_looksForCluster h config.clusterDomain
    a.metadata.key.ns a.spec s
  exact ⟨x, hpart.subset hx, hlooks⟩

/-- An apply that asked what a synchronization asks is an event of its own. -/
theorem events_of_synchronized {a : Address}
    (hpart : Task.transcript h (synchronization config a) s <:+: log) (succeeded : Bool) :
    Passage.events ⟨.apply a, log, succeeded⟩ =
      [⟨a.metadata.key, if succeeded then .synced (versionOf a) else .failed⟩] :=
  if_pos (List.any_eq_true.mpr (looksForCluster_of_synchronized hpart))

/-- The events of an apply tell the version that it leaves applied. -/
theorem checksum_of_applied {a : Address} (happlied : Applied h config a m log outcome m')
    (k : ObjectKey) : m'.checksum k =
      checksumAfter k (Passage.events ⟨.apply a, log, outcome.toBool⟩) (m.checksum k) := by
  cases happlied with
  | refused => rfl
  | unchanged => rfl
  | seeded hvalid hstale selector hrecord hchecksum =>
    simp [Passage.events, Request.looksForCluster, Passage.recordListed?, hrecord,
      checksumAfter_singleton, checksum_tracked, Effect.checksum, hchecksum]
  | failed =>
    rw [events_of_synchronized (List.suffix_append _ _).isInfix, checksumAfter_singleton,
      checksum_tracked]
    rfl
  | synced =>
    rw [events_of_synchronized (List.infix_append' _ _ _), checksumAfter_singleton,
      checksum_tracked]
    by_cases hk : a.metadata.key = k
    · simp [hk, Except.toBool, Effect.checksum]
    · simp [hk, checksum_tracked]

theorem checksum_of_cleaned {a : Address} (hcleaned : Cleaned a m log outcome m') (k : ObjectKey) :
    m'.checksum k =
      checksumAfter k (Passage.events ⟨.cleanup a, log, outcome.toBool⟩) (m.checksum k) := by
  cases hcleaned with
  | failed => rfl
  | forgotten hlog deleted =>
    simp [Passage.events, Except.toBool, checksumAfter_singleton, checksum_forgotten,
      Effect.checksum]

/-- The events of an operation tell the versions that it leaves applied. -/
theorem checksum_of_performed {p : Passage} (hperformed : Performed h config m s p m')
    (k : ObjectKey) :
    m'.checksum k = checksumAfter k p.events (m.checksum k) := by
  cases hperformed with
  | applied happlied => exact checksum_of_applied happlied k
  | cleaned hcleaned => exact checksum_of_cleaned hcleaned k
  | noticed hnoticed =>
    rw [checksum_of_noticed hnoticed, Passage.events, checksumAfter_eq, toldAfter_map]
    rfl

/-! ## Synchronizations -/

/-- Among what was asked is a synchronization of a declaration, and it came to an outcome. -/
def Synchronized (h : Handler surroundings σ) (config : Config) (a : Address)
    (log : List surroundings.Reply) (outcome : Except Failure Unit) : Prop :=
  ∃ s, Task.transcript h (synchronization config a) s <:+: log ∧
    Task.outcome h (synchronization config a) s = outcome

/-- What the events of an operation say about synchronizations. -/
structure Passage.Justified (h : Handler surroundings σ) (config : Config) (p : Passage) :
    Prop where
  synced : ∀ k r, ⟨k, .synced r⟩ ∈ p.events → ∃ a, p.operation = .apply a ∧ a.metadata.key = k ∧
    versionOf a = r ∧ Synchronized h config a p.log (.ok ())
  failed : ∀ k, ⟨k, .failed⟩ ∈ p.events → ∃ a e, p.operation = .apply a ∧ a.metadata.key = k ∧
    Synchronized h config a p.log (.error e)

theorem justified_of_applied {a : Address} (happlied : Applied h config a m log outcome m') :
    Passage.Justified h config ⟨.apply a, log, outcome.toBool⟩ := by
  cases happlied with
  | refused => constructor <;> simp [Passage.events]
  | unchanged => constructor <;> simp [Passage.events]
  | seeded => constructor <;> simp [Passage.events, Request.looksForCluster]
  | @failed _ _ looked _ s e hensure =>
    have hpart :=
      (List.suffix_append looked (Task.transcript h (synchronization config a) s)).isInfix
    refine ⟨fun k r hk => ?_, fun k hk => ?_⟩
    · rw [events_of_synchronized hpart] at hk
      simp [Except.toBool] at hk
    · rw [events_of_synchronized hpart] at hk
      obtain rfl : k = a.metadata.key := by simpa [Except.toBool] using hk
      exact ⟨a, e, rfl, rfl, s, hpart, hensure⟩
  | @synced _ _ looked _ s hensure s' =>
    have hpart := List.infix_append' looked (Task.transcript h (synchronization config a) s)
      (Task.transcript h (recordOf a).store s')
    refine ⟨fun k r hk => ?_, fun k hk => ?_⟩
    · rw [events_of_synchronized hpart] at hk
      obtain ⟨rfl, hr⟩ : k = a.metadata.key ∧ r = versionOf a := by simpa [Except.toBool] using hk
      exact ⟨a, rfl, rfl, hr.symm, s, hpart, hensure⟩
    · rw [events_of_synchronized hpart] at hk
      simp [Except.toBool] at hk

theorem justified_of_performed {p : Passage} (hperformed : Performed h config m s p m') :
    p.Justified h config := by
  cases hperformed with
  | applied happlied => exact justified_of_applied happlied
  | @cleaned _ _ outcome => cases outcome <;> constructor <;> simp [Passage.events, Except.toBool]
  | noticed => constructor <;> simp [Passage.events]

theorem perform_justified (h : Handler surroundings σ) (config : Config) (op : Operation)
    (m : AddressMemory) (s : σ) : (perform h config op m s).1.Justified h config :=
  justified_of_performed (perform_performed h config op m s)

/-! ## When nothing is asked -/

theorem not_quiet_of_synchronized {a : Address}
    (hpart : Task.transcript h (synchronization config a) s <:+: log) :
    ¬ ∀ x ∈ log, x.1.isCall = false ∧ x.1.accessesStore = false := by
  obtain ⟨x, hx, hlooks⟩ := looksForCluster_of_synchronized hpart
  intro hquiet
  have haccess := (hquiet x hx).2
  rw [Request.accessesStore_of_looksForCluster hlooks] at haccess
  cases haccess

/-- An apply of a valid declaration accesses nothing exactly when its version is the one applied
last. -/
theorem quiet_iff (h : Handler surroundings σ) (config : Config) {a : Address}
    (hvalid : a.spec.violations = []) (m : AddressMemory) (s : σ) :
    (∀ x ∈ (perform h config (.apply a) m s).1.log, x.1.isCall = false ∧
      x.1.accessesStore = false) ↔
      m.checksum a.metadata.key = some (versionOf a) := by
  obtain ⟨log, outcome, m', s', hruns, happlied⟩ := apply_applied h config a m s
  rw [perform_of_runs rfl hruns, ← isApplied_iff]
  cases happlied with
  | refused hviolated => exact absurd hvalid hviolated
  | unchanged _ happlied => simp [happlied]
  | seeded _ hstale => simp [hstale, Request.accessesStore]
  | failed _ hstale =>
    exact iff_of_false (not_quiet_of_synchronized (List.suffix_append _ _).isInfix)
      (by simp [hstale])
  | synced _ hstale =>
    exact iff_of_false (not_quiet_of_synchronized (List.infix_append' _ _ _)) (by simp [hstale])

/-! ## Records -/

def CreatesRecord (k : ObjectKey) (map : ConfigMap) (r : Request) : Prop :=
  r = .createConfigMap k.ns map ∧ map.metadata.name = some (Record.nameOf k recordKind)

theorem CreatesRecord.not_readOrCall {k : ObjectKey} {map : ConfigMap} {r : Request}
    (hr : CreatesRecord k map r) : r.isReadOrCall = false := by
  rw [hr.1]
  rfl

theorem eq_of_nameOf_eq {k k' : ObjectKey} (kind : String) (hns : k.ns = k'.ns)
    (hname : Record.nameOf k kind = Record.nameOf k' kind) : k = k' := by
  obtain ⟨ns, name⟩ := k
  obtain ⟨ns', name'⟩ := k'
  simp_all [Record.nameOf]

theorem checksum_toConfigMap (r : Record) :
    r.toConfigMap.data.bind (·.get? "checksum") = some r.checksum := by
  simp [Record.toConfigMap, Dict.ofList, Dict.get?_insert]

theorem createsRecord_toConfigMap {r : Record} {k : ObjectKey} {map : ConfigMap}
    (hkind : r.kind = recordKind)
    (hrecord : CreatesRecord k map (.createConfigMap r.owner.ns r.toConfigMap)) :
    k = r.owner ∧ map = r.toConfigMap := by
  obtain ⟨hcreate, hname⟩ := hrecord
  injection hcreate with hns hmap
  subst hmap
  refine ⟨eq_of_nameOf_eq recordKind hns.symm ?_, rfl⟩
  have hname : r.name = Record.nameOf k recordKind := by simpa [Record.toConfigMap] using hname
  rw [← hname, Record.name, hkind]

/-- A record that an apply creates has the version of the synchronization that succeeded before, and
its creation is the last request. -/
theorem record_of_applied {a : Address} (happlied : Applied h config a m log outcome m')
    {x : surroundings.Reply} (hx : x ∈ log) {k : ObjectKey} {map : ConfigMap}
    (hrecord : CreatesRecord k map x.1) : ∃ r before,
      map.data.bind (·.get? "checksum") = some r ∧ log = before ++ [x] ∧
        ⟨k, .synced r⟩ ∈ Passage.events ⟨.apply a, log, outcome.toBool⟩ := by
  have hlisting : ∀ looked : List surroundings.Reply, (∀ y ∈ looked, IsListing y) → x ∉ looked := by
    intro looked hlooked hx
    obtain ⟨ns, selector, hlists⟩ := hlooked x hx
    cases hlists.symm.trans hrecord.1
  have hensured : ∀ s, x ∉ Task.transcript h (synchronization config a) s := by
    intro s hx
    have hasks := (AddressSync.asks_ensure config.clusterDomain a.metadata.key.ns
      a.spec).transcript h s x hx
    rw [hrecord.not_readOrCall] at hasks
    cases hasks
  cases happlied with
  | refused => cases hx
  | unchanged => cases hx
  | seeded _ _ selector =>
    refine absurd hx (hlisting _ fun y hy => ?_)
    obtain rfl := List.mem_singleton.mp hy
    exact ⟨_, _, rfl⟩
  | failed _ _ hlooked => exact absurd hx (by simp [hlisting _ hlooked, hensured])
  | @synced _ _ looked hlooked s hensure s' =>
    obtain ⟨deleted, created, hstored, hcreated⟩ := transcript_store h (recordOf a) s'
    rw [hstored] at hx ⊢
    have hdeleted : x ≠ ⟨.deleteConfigMap ⟨(recordOf a).owner.ns, (recordOf a).name⟩, deleted⟩ := by
      rintro rfl
      cases hrecord.1
    -- nothing but the last request of the store creates a config map
    have hx : x ∈ created := by
      simpa [hlisting _ hlooked, hensured, hdeleted] using hx
    obtain rfl | ⟨answer, rfl⟩ := hcreated
    · cases hx
    · obtain rfl := List.mem_singleton.mp hx
      obtain ⟨rfl, rfl⟩ := createsRecord_toConfigMap rfl hrecord
      refine ⟨versionOf a, looked ++ (Task.transcript h (synchronization config a) s ++
        [⟨.deleteConfigMap _, deleted⟩]), checksum_toConfigMap _, by simp, ?_⟩
      rw [events_of_synchronized (List.infix_append' _ _ _)]
      exact List.mem_singleton_self _

theorem not_createsRecord_of_cleaned {a : Address} (hcleaned : Cleaned a m log outcome m')
    {x : surroundings.Reply} (hx : x ∈ log) {k : ObjectKey} {map : ConfigMap} :
    ¬ CreatesRecord k map x.1 := by
  intro hrecord
  have hasked : ∀ asked : List surroundings.Reply, (∀ y ∈ asked, y.1.isReadOrCall = true) →
      x ∉ asked := by
    intro asked hasked hx
    have hreadOrCall := hasked x hx
    rw [hrecord.not_readOrCall] at hreadOrCall
    cases hreadOrCall
  cases hcleaned with
  | failed hlog => exact hasked _ hlog hx
  | forgotten hlog deleted =>
    obtain rfl : x = ⟨.deleteConfigMap _, deleted⟩ := by simpa [hasked _ hlog] using hx
    cases hrecord.1

/-- The records that operations create are of synchronizations that succeeded. -/
theorem record_of_performed {p : Passage} (hperformed : Performed h config m s p m') :
    ∀ x ∈ p.log, ∀ k map, CreatesRecord k map x.1 → ∃ r before,
      map.data.bind (·.get? "checksum") = some r ∧ p.log = before ++ [x] ∧
      ⟨k, .synced r⟩ ∈ p.events := by
  intro x hx k map hrecord
  cases hperformed with
  | applied happlied => exact record_of_applied happlied hx hrecord
  | cleaned hcleaned => exact absurd hrecord (not_createsRecord_of_cleaned hcleaned hx)
  | noticed hnoticed =>
    obtain hget | ⟨t, hsend⟩ := mem_of_noticed hnoticed hx
    · cases hget.symm.trans hrecord.1
    · cases hsend.symm.trans hrecord.1

theorem perform_record (h : Handler surroundings σ) (config : Config) (op : Operation)
    (m : AddressMemory) (s : σ) : ∀ x ∈ (perform h config op m s).1.log, ∀ k map,
      CreatesRecord k map x.1 → ∃ r before, map.data.bind (·.get? "checksum") = some r ∧
        (perform h config op m s).1.log = before ++ [x] ∧
        ⟨k, .synced r⟩ ∈ (perform h config op m s).1.events :=
  record_of_performed (perform_performed h config op m s)

end Perform

/-! ## The whole run -/

/-- What a memory and a history have to do with each other: the version that is remembered is told
by the last event, it alone decides whether an apply asks anything, and records are kept of
successes only. -/
structure Recalls (h : Handler surroundings σ) (config : Config) (history : List Passage)
    (m : AddressMemory) : Prop where
  checksum_iff : ∀ k r, m.checksum k = some r ↔
    lastEffect k (history.flatMap Passage.events) = some (.synced r) ∨
      lastEffect k (history.flatMap Passage.events) = some (.seeded r)
  quiet_iff : ∀ a : Address, a.spec.violations = [] → ∀ s,
    (∀ x ∈ (perform h config (.apply a) m s).1.log, x.1.isCall = false ∧
      x.1.accessesStore = false) ↔
      m.checksum a.metadata.key = some (AddressLifecycle.versionOf a)
  record : ∀ p ∈ history, ∀ x ∈ p.log, ∀ k map, CreatesRecord k map x.1 → ∃ r before,
    map.data.bind (·.get? "checksum") = some r ∧ p.log = before ++ [x] ∧ ⟨k, .synced r⟩ ∈ p.events
  justified : ∀ p ∈ history, p.Justified h config

/-- What the events of every operation tell about the memory, the events of a run tell. -/
theorem carryOut_told (h : Handler surroundings σ) (config : Config) {β : Type}
    (read : AddressMemory → β) {tell : Effect → β} {k : ObjectKey}
    (hstep : ∀ op m s, read (perform h config op m s).2.1 =
      toldAfter tell k (perform h config op m s).1.events (read m))
    (turns : List (Turn σ)) (m : AddressMemory) (s : σ) :
    read (carryOut h config turns m s).2.1 =
      toldAfter tell k ((carryOut h config turns m s).1.flatMap Passage.events) (read m) := by
  induction turns generalizing m s with
  | nil => rfl
  | cons t rest ih =>
    rw [carryOut, List.flatMap_cons, toldAfter_append, ← hstep]
    exact ih _ _

theorem carryOut_checksum (h : Handler surroundings σ) (config : Config) (turns : List (Turn σ))
    (m : AddressMemory) (s : σ) (k : ObjectKey) :
    (carryOut h config turns m s).2.1.checksum k =
      checksumAfter k ((carryOut h config turns m s).1.flatMap Passage.events) (m.checksum k) :=
  carryOut_told h config (fun m => m.checksum k)
    (fun op m s => checksum_of_performed (perform_performed h config op m s) k) turns m s

/-- What every operation does, every operation of a history did. -/
theorem carryOut_all (h : Handler surroundings σ) (config : Config) {P : Passage → Prop}
    (hP : ∀ op m s, P (perform h config op m s).1) (turns : List (Turn σ)) (m : AddressMemory)
    (s : σ) :
    ∀ p ∈ (carryOut h config turns m s).1, P p := by
  induction turns generalizing m s with
  | nil => simp [carryOut]
  | cons t rest ih =>
    intro p hp
    rcases List.mem_cons.mp hp with rfl | hp
    · exact hP t.operation m (t.meanwhile s)
    · exact ih _ _ p hp

/-- Every state that a controller reaches from an empty memory recalls the history that led to
it. -/
theorem carryOut_recalls (h : Handler surroundings σ) (config : Config) (turns : List (Turn σ))
    (s : σ) :
    Recalls h config (carryOut h config turns {} s).1 (carryOut h config turns {} s).2.1 where
  checksum_iff k r := by
    rw [carryOut_checksum]
    exact checksumAfter_eq_some_iff
  quiet_iff a hvalid s := quiet_iff h config hvalid _ s
  record := carryOut_all h config (perform_record h config) turns {} s
  justified := carryOut_all h config (perform_justified h config) turns {} s

end BrokerFleet
