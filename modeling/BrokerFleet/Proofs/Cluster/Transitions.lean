import BrokerFleet.Proofs.Cluster.Settling
import BrokerFleet.Proofs.Store.World

/-! # Times of transitions

A condition carries the time at which its status last changed. Over a run of passes, with any
changes of the surroundings between them, that time stays as long as the status does, and where the
status changes it becomes what the clock showed in the pass that wrote it. -/

namespace BrokerFleet

/-! ## What the clock showed -/

/-- What the clock showed, if a reply is one of the clock. -/
def clockReading? : surroundings.Reply → Option String
  | ⟨.clock, now⟩ => some now
  | _ => none

/-- What the clock showed among replies, in order. -/
def readingsIn (log : List surroundings.Reply) : List String := log.filterMap clockReading?

theorem readingsIn_append (xs ys : List surroundings.Reply) :
    readingsIn (xs ++ ys) = readingsIn xs ++ readingsIn ys := List.filterMap_append

variable {σ : Type} {h : Handler surroundings σ} {s : σ}

theorem mem_readings_of_clock {now : String}
    (hnow : Task.outcome h (Task.lift readClock) s = .ok now) :
    now ∈ readingsIn (Task.transcript h (Task.lift readClock) s) := by
  rw [Task.outcome_lift] at hnow
  cases hnow
  rw [Task.transcript_lift]
  exact List.mem_singleton_self _

theorem mem_readings_of_bind {α β : Type} {t : Task α} {f : α → Task β} {a : α} {now : String}
    (ht : Task.outcome h t s = .ok a)
    (hnow : now ∈ readingsIn (Task.transcript h t s) ∨
      now ∈ readingsIn (Task.transcript h (f a) (Task.after h t s))) :
    now ∈ readingsIn (Task.transcript h (t >>= f) s) := by
  rw [Task.transcript_bind_ok _ ht, readingsIn_append]
  exact List.mem_append.mpr hnow

namespace ClusterPass

variable {config : Config} {registry : HandlerRegistry} {key : ObjectKey} {c : Cluster}
  {readings : List String} {old : Option ClusterStatus} {new : ClusterStatus}
  {held : σ → Option ClusterStatus}

/-! ## A status after another -/

/-- A status has one condition of each stated type, with the time of the last change of its status:
that of the earlier status where this one says the same, and else one of the readings. -/
structure Redates (readings : List String) (old : Option ClusterStatus) (new : ClusterStatus) :
    Prop where
  types : (new.conditions.map Condition.type).Perm Projection.statedTypes
  kept : ∀ o ∈ old, ∀ b ∈ o.conditions, ∀ e ∈ new.conditions, e.type = b.type →
    e.status = b.status →
    e.lastTransitionTime = b.lastTransitionTime
  moved : ∀ o ∈ old, ∀ b ∈ o.conditions,
    ∀ e ∈ new.conditions, e.type = b.type → e.status ≠ b.status →
    ∃ now ∈ readings, e.lastTransitionTime = some now
  begun : ∀ e ∈ new.conditions, (∀ o ∈ old, e.type ∉ o.conditions.map Condition.type) →
    ∃ now ∈ readings, e.lastTransitionTime = some now

namespace Redates

theorem mono {more : List String} (hnew : Redates readings old new) (hmore : readings ⊆ more) :
    Redates more old new where
  types := hnew.types
  kept := hnew.kept
  moved o ho b hb e he htype hstatus := by
    obtain ⟨now, hnow, htime⟩ := hnew.moved o ho b hb e he htype hstatus
    exact ⟨now, hmore hnow, htime⟩
  begun e he hnone := by
    obtain ⟨now, hnow, htime⟩ := hnew.begun e he hnone
    exact ⟨now, hmore hnow, htime⟩

theorem single (hnew : Redates readings old new) : Single (some new) := by
  rintro _ ⟨⟩
  exact hnew.types.nodup_iff.mpr (by decide)

/-- Conditions that are dated by those of the earlier status. -/
theorem of_dated (hsingle : Single old)
    (htypes : (new.conditions.map Condition.type).Perm Projection.statedTypes)
    (hdated : ∀ e ∈ new.conditions, ∃ d : Condition,
      (∃ now ∈ readings, d.lastTransitionTime = some now) ∧
        e = d.dated (old.bind fun o => Condition.find? e.type o.conditions)) :
    Redates readings old new := by
  have hbefore : ∀ o ∈ old, ∀ b ∈ o.conditions, ∀ e ∈ new.conditions, e.type = b.type →
      ∃ d : Condition, (∃ now ∈ readings, d.lastTransitionTime = some now) ∧
      e = d.dated (some b) := by
    rintro o rfl b hb e he htype
    obtain ⟨d, htime, hed⟩ := hdated e he
    rw [Option.bind_some, htype, Condition.find?_of_mem (hsingle o rfl) hb] at hed
    exact ⟨d, htime, hed⟩
  refine ⟨htypes, ?_, ?_, ?_⟩
  · intro o ho b hb e he htype hstatus
    obtain ⟨d, -, rfl⟩ := hbefore o ho b hb e he htype
    rw [Condition.status_dated] at hstatus
    exact Condition.time_dated_of_eq hstatus.symm
  · intro o ho b hb e he htype hstatus
    obtain ⟨d, htime, rfl⟩ := hbefore o ho b hb e he htype
    rw [Condition.status_dated] at hstatus
    rwa [Condition.dated_of_ne hstatus.symm]
  · intro e he hnone
    obtain ⟨d, htime, hed⟩ := hdated e he
    have hfound : (old.bind fun o => Condition.find? e.type o.conditions) = none := by
      rw [Option.bind_eq_none_iff]
      intro o ho
      refine Option.eq_none_iff_forall_ne_some.mpr fun b hb => hnone o ho ?_
      obtain ⟨hmem, htype⟩ := Condition.of_find?_eq_some hb
      exact htype ▸ List.mem_map_of_mem hmem
    rw [hfound] at hed
    exact hed ▸ htime

end Redates

/-! ## What a survey projects -/

theorem time_validated {v : Validation}
    (hv : Task.outcome h (Validity.validate config c) s = .ok v) :
    ∃ now ∈ readingsIn (Task.transcript h (Validity.validate config c) s),
      v.condition.lastTransitionTime = some now := by
  obtain ⟨result, hresult, hv⟩ := Task.outcome_bind_eq_ok _ hv
  obtain ⟨now, hnow, hv⟩ := Task.outcome_bind_eq_ok _ hv
  cases hv
  have hread := mem_readings_of_clock hnow
  refine ⟨now, mem_readings_of_bind hresult (.inr (mem_readings_of_bind hnow (.inl hread))), ?_⟩
  cases result <;> rfl

/-- Both times that a survey states are what the clock showed in it. -/
theorem times_survey {x : Survey} (hx : Task.outcome h (survey config registry key c) s = .ok x) :
    x.now ∈ readingsIn (Task.transcript h (survey config registry key c) s) ∧
      ∃ now ∈ readingsIn (Task.transcript h (survey config registry key c) s),
        x.validation.condition.lastTransitionTime = some now := by
  obtain ⟨v, hv, hprocess⟩ := Task.outcome_bind_eq_ok _ hx
  obtain ⟨provisioned, hprovisioned, hview⟩ := Task.outcome_bind_eq_ok _ hprocess
  obtain ⟨observed, hobserved, hread⟩ := Task.outcome_bind_eq_ok _ hview
  obtain ⟨now, hnow, hx⟩ := Task.outcome_bind_eq_ok _ hread
  cases hx
  constructor
  · refine mem_readings_of_bind hv (.inr (mem_readings_of_bind hprovisioned (.inr
      (mem_readings_of_bind hobserved (.inr (mem_readings_of_bind hnow (.inl ?_)))))))
    exact mem_readings_of_clock hnow
  · obtain ⟨now, hnow, htime⟩ := time_validated hv
    exact ⟨now, mem_readings_of_bind hv (.inl hnow), htime⟩

/-- A status that a survey projects dates each condition by the status that the cluster held. -/
theorem redates_survey {x : Survey} (hx : Task.outcome h (survey config registry key c) s = .ok x)
    (hsingle : Single c.status) :
    Redates (readingsIn (Task.transcript h (survey config registry key c) s)) c.status
      x.status := by
  obtain ⟨rfl, hv, -, -⟩ := survey_ok hx
  obtain ⟨hnow, hvalidated⟩ := times_survey hx
  have hvalid := type_validated hv
  have htypes : (x.status.conditions.map Condition.type).Perm Projection.statedTypes :=
    Projection.perm_types_conditions hvalid (Projection.type_deployed ..) hsingle x.now
      x.cluster.generation
  refine .of_dated hsingle htypes fun e he => ?_
  obtain ⟨d, hd, hed⟩ := Projection.exists_statement_of_mem hvalid (Projection.type_deployed ..)
    (htypes.nodup_iff.mpr (by decide)) he
  refine ⟨d, ?_, hed⟩
  simp only [Projection.statements, List.mem_cons, List.not_mem_nil, or_false] at hd
  obtain rfl | rfl | rfl := hd
  · exact hvalidated
  · exact ⟨x.now, hnow, Projection.time_deployed ..⟩
  · exact ⟨x.now, hnow, Condition.time_aggregate ..⟩

/-! ## What writes a persisted status -/

/-- A store in which nothing that a pass asks writes the persisted status of its cluster but the
patch, which writes the given one if it writes any. -/
structure Persisting (h : Handler surroundings σ) (key : ObjectKey)
    (held : σ → Option ClusterStatus) :
    Prop where
  found : ∀ s c, (h (.getCluster key) s).1 = .ok (some c) → c.status = held s
  leaves : ∀ r : Request, r.leavesStatus = true → ∀ s, held (h r s).2 = held s
  patched : ∀ version st s, held (h (.patchClusterStatus key version st) s).2 = held s ∨
    held (h (.patchClusterStatus key version st) s).2 = some st

namespace Persisting

variable (hstore : Persisting h key held)

include hstore

theorem held_survey (config : Config) (registry : HandlerRegistry) (c : Cluster) (s : σ) :
    held (Task.after h (survey config registry key c) s) = held s :=
  (asks_survey config registry key c).preserves (Q := fun s' => held s' = held s)
    (fun r hr s' hs' => (hstore.leaves r hr s').trans hs') rfl

/-- A commit writes its status or nothing. -/
theorem held_commit (status : ClusterStatus) (s : σ) :
    held (Task.after h (commit key status) s) = held s ∨
      held (Task.after h (commit key status) s) = some status := by
  have hread : held (h (.getCluster key) s).2 = held s := hstore.leaves (.getCluster key) rfl s
  cases committed h key status s with
  | unread _ _ _ hafter => exact .inl (hafter ▸ hread)
  | unwritten _ _ _ _ hafter => exact .inl (hafter ▸ hread)
  | @patched current answered s' _ _ hanswered _ _ hafter =>
    have hpatched :=
      hstore.patched current.metadata.resourceVersion status (h (.getCluster key) s).2
    rwa [hanswered, hread, ← hafter] at hpatched

/-- A pass leaves the persisted status as it is, or persists one that is dated by it. -/
theorem held_run (config : Config) (registry : HandlerRegistry) (hsingle : Single (held s)) :
    held (Task.after h (run config registry key) s) = held s ∨
      ∃ st, held (Task.after h (run config registry key) s) = some st ∧
        Redates (readingsIn (Task.transcript h (run config registry key) s)) (held s) st := by
  have hread : held (h (.getCluster key) s).2 = held s := hstore.leaves (.getCluster key) rfl s
  cases hfound : (h (.getCluster key) s).1 with
  | error e =>
    have hget : Task.outcome h (Task.getCluster key) s = .error e := hfound
    rw [run_eq, Task.after_bind_error _ hget]
    exact .inl hread
  | ok found =>
    cases found with
    | none =>
      have hget : Task.outcome h (Task.getCluster key) s = .ok none := hfound
      rw [run_eq, Task.after_bind_ok _ hget]
      exact .inl hread
    | some c =>
      have hstatus : c.status = held s := hstore.found s c hfound
      have hsurveyed := (hstore.held_survey config registry c (h (.getCluster key) s).2).trans hread
      rw [(run_of_cluster hfound).2, after_run_of_cluster hfound, passOver]
      cases hx : Task.outcome h (survey config registry key c) (h (.getCluster key) s).2 with
      | error e =>
        rw [Task.after_bind_error _ hx]
        exact .inl hsurveyed
      | ok x =>
        rw [Task.after_bind_ok _ hx, Task.transcript_bind_ok _ hx, after_settle, ← hsurveyed]
        refine (hstore.held_commit x.status _).imp_right fun hwritten => ⟨x.status, hwritten, ?_⟩
        rw [hsurveyed, ← hstatus]
        refine (redates_survey hx (hstatus ▸ hsingle)).mono fun now hnow => ?_
        rw [← List.singleton_append, readingsIn_append, readingsIn_append]
        exact List.mem_append_right _ (List.mem_append_left _ hnow)

end Persisting

/-! ## Runs of passes -/

/-- One pass of a run: what changes before it, and what it runs with. -/
structure Turn (σ : Type) where
  meanwhile : σ → σ
  config : Config
  registry : HandlerRegistry

/-- The status that is persisted after a pass, and what the clock showed in the pass. -/
structure Left where
  status : Option ClusterStatus
  readings : List String

/-- What the passes of a run leave, one after another. -/
def passesLeave (h : Handler surroundings σ) (key : ObjectKey) (held : σ → Option ClusterStatus) :
    List (Turn σ) → σ → List Left
  | [], _ => []
  | turn :: rest, s =>
    let pass := run turn.config turn.registry key
    let after := Task.after h pass (turn.meanwhile s)
    ⟨held after, readingsIn (Task.transcript h pass (turn.meanwhile s))⟩ ::
      passesLeave h key held rest after

/-- A pass leaves the status that was persisted, or one dated by it. -/
def Left.Follows (later earlier : Left) : Prop :=
  later.status = earlier.status ∨
    ∃ st, later.status = some st ∧ Redates later.readings earlier.status st

/-- Over every run of passes between which the persisted status stays, whatever else changes, each
persisted status dates its conditions by the one before: the time of a condition is the same where
its status is, and is what the clock showed in the pass that wrote it where the status is
another. -/
theorem times_move_with_statuses (hstore : Persisting h key held) (turns : List (Turn σ))
    (hmeanwhile : ∀ turn ∈ turns, ∀ s, held (turn.meanwhile s) = held s) (hsingle : Single (held s))
    (readings : List String) :
    List.IsChain (fun earlier later => later.Follows earlier)
      (⟨held s, readings⟩ :: passesLeave h key held turns s) := by
  induction turns generalizing s readings with
  | nil => exact .singleton _
  | cons turn rest ih =>
    have hstart : held (turn.meanwhile s) = held s := hmeanwhile turn List.mem_cons_self s
    have hpass :=
      hstore.held_run turn.config turn.registry (s := turn.meanwhile s) (hstart ▸ hsingle)
    rw [hstart] at hpass
    refine List.isChain_cons_cons.mpr
      ⟨hpass, ih (fun t ht => hmeanwhile t (List.mem_cons_of_mem _ ht)) ?_ _⟩
    -- no pass persists two conditions of a type
    obtain hsame | ⟨st, hst, hredates⟩ := hpass
    · exact hsame ▸ hsingle
    · exact hst ▸ hredates.single

/-! ## Passes over the world in memory -/

section World

open Simulation

/-- The persisted status of a cluster in memory. -/
def persistedIn (key : ObjectKey) (w : World) : Option ClusterStatus :=
  (w.objects.clusters.get? key).bind (·.status)

theorem persistedIn_unlessFault {α : Type} {w : World} {request name : String}
    {answer : World → Except Failure α × World} {P : Option ClusterStatus → Prop}
    (hleft : P (persistedIn key w))
    (hanswer : ∀ v : World, v.objects = w.objects → P (persistedIn key (answer v).2)) :
    P (persistedIn key (w.unlessFault request name answer).2) := by
  unfold World.unlessFault
  split
  · exact hleft
  · exact hanswer _ rfl

/-- What leaves the status alone leaves all objects in memory alone. -/
theorem objects_of_leavesStatus {r : Request} (hr : r.leavesStatus = true) (w : World) :
    (World.answer r w).2.objects = w.objects := by
  cases r with
  | getCluster key' => exact World.objects_read ..
  | listPods ns selector => exact World.objects_read ..
  | getSecret key' => exact World.objects_read ..
  | getConfigMap key' => exact World.objects_read ..
  | provision c handler => exact World.objects_provision ..
  | clock => rfl
  | _ => cases hr

/-- The world in memory writes a status only where it is patched in. -/
theorem persisting_world (key : ObjectKey) : Persisting World.answer key (persistedIn key) where
  found w c hfound := by
    have hget : some c = w.objects.clusters.get? key := World.eq_of_read hfound
    rw [persistedIn, ← hget]
    rfl
  leaves r hr w := by rw [persistedIn, objects_of_leavesStatus hr]; rfl
  patched version st w := by
    refine persistedIn_unlessFault (w := w.note (.patched key version st))
      (P := fun p => p = persistedIn key w ∨ p = some st) (.inl rfl) fun v hv => ?_
    have hsame : persistedIn key v = persistedIn key w := by
      rw [persistedIn, hv]
      rfl
    dsimp only
    cases hget : v.objects.clusters.get? key with
    | none => exact .inl hsame
    | some c =>
      dsimp only
      split
      · exact .inl hsame
      · refine .inr ?_
        rw [persistedIn, Dict.get?_insert_self]
        rfl

def plainWorld : World := { now := "", objects := Objects.put {} (.cluster plainCluster) }

/-- The only replica of the plain cluster, ready. -/
def plainPod : Pod where
  metadata := { name := some "c-ss-0", ns := some "n", labels := some (clusterLabels "c") }
  report := some { phase := none, conditions := some [⟨"Ready", "True"⟩] }

/-- A turn before which the clock moves and the pods change. -/
def turnAt (now : String) (pods : List Pod) : Turn World where
  meanwhile w :=
    { w with
      now
      objects := { w.objects with pods := .ofList (pods.map fun p => (p.metadata.key, p)) } }
  config := {}
  registry := .empty

/-- The types, statuses and times of the conditions that a pass left. -/
def Left.times (l : Left) : List (String × Holds × Option String) :=
  (l.status.elim [] (·.conditions)).map fun c => (c.type, c.status, c.lastTransitionTime)

/-- The replica becomes ready, stays so, and goes: `Valid` keeps its first time, the other two move
with their statuses. -/
theorem times_move_with_statuses_replica :
    let turns := [turnAt "09:00" [], turnAt "09:05" [plainPod], turnAt "09:10" [plainPod],
      turnAt "09:15" []]
    let left :=
      passesLeave World.answer plainCluster.key (persistedIn plainCluster.key) turns plainWorld
    List.IsChain (fun earlier later => Left.Follows later earlier)
      (⟨persistedIn plainCluster.key plainWorld, []⟩ :: left) ∧
    left.map Left.times = ([
      [("Valid", .yes, "09:00"), ("Deployed", .no, "09:00"), ("Ready", .no, "09:00")],
      [("Valid", .yes, "09:00"), ("Deployed", .yes, "09:05"), ("Ready", .yes, "09:05")],
      [("Valid", .yes, "09:00"), ("Deployed", .yes, "09:05"), ("Ready", .yes, "09:05")],
      [("Valid", .yes, "09:00"), ("Deployed", .no, "09:15"), ("Ready", .no, "09:15")]] :
        List (List (String × Holds × Option String))) := by
  intro turns left
  have hmeanwhile : ∀ turn ∈ turns, ∀ w,
      persistedIn plainCluster.key (turn.meanwhile w) = persistedIn plainCluster.key w := by
    simp only [turns, List.forall_mem_cons, List.not_mem_nil, false_implies, implies_true, and_true]
    exact ⟨fun _ => rfl, fun _ => rfl, fun _ => rfl, fun _ => rfl⟩
  have hsingle : Single (persistedIn plainCluster.key plainWorld) := by
    have habsent : persistedIn plainCluster.key plainWorld = none := by decide +kernel
    rw [habsent]
    exact nofun
  exact ⟨times_move_with_statuses (persisting_world _) turns hmeanwhile hsingle [],
    by decide +kernel⟩

end World

end ClusterPass

end BrokerFleet
