import BrokerFleet.Proofs.Address.FanOut

/-! # What a fan-out comes to

Bringing an address to its replicas succeeds exactly when no replica is unavailable and no replica
answered with a failure. Otherwise the failure names the replicas concerned and nothing else, and
asks to be tried again exactly when one of the causes is expected to pass. -/

namespace BrokerFleet.AddressSync

/-! ## Answers and failures -/

/-- A failure is reported about the queue exactly when the replica does not have it. -/
theorem QueueAnswers.failure?_eq_none_iff {q : QueueAnswers}
    (hupdated : q.updated.isSome ↔ queueExists q.created) : q.failure? = none ↔ q.done := by
  obtain ⟨_ | v, _ | _ | w⟩ := q
  · simp [failure?, done]
  · simp [failure?, done]
  · simpa [failure?, done] using hupdated
  all_goals simp [failure?, done]

theorem failureOf_addressAlreadyExists {r : CallResult} :
    failureOf .addressAlreadyExists r = none ↔ addressThere r := by
  rw [failureOf_eq_none_iff, settles_addressAlreadyExists]

/-! ## Reports -/

section Reported

variable {cause : String} {unavailable : List UnavailableReplica}
  {failures : List (ReplicaTarget × CallFailure)}

theorem isEmpty_reported :
    (reported cause unavailable failures).isEmpty ↔ unavailable = [] ∧ failures = [] := by
  rw [reported, BatchFailure.isEmpty_takeAll]
  simp [absenceSteps, batchSteps]

/-- A report names the replicas that are not there and the targets of the failures, and nothing
else. -/
theorem mem_keys_reported {fqdn : String} :
    fqdn ∈ (reported cause unavailable failures).detail.keys ↔
      (∃ r ∈ unavailable, r.fqdn = fqdn) ∨ ∃ x ∈ failures, x.1.fqdn = fqdn := by
  rw [reported, BatchFailure.mem_keys_takeAll]
  simp only [absenceSteps, batchSteps, List.mem_append, List.mem_map, or_and_right, exists_or]
  refine or_congr ⟨?_, ?_⟩ ⟨?_, ?_⟩
  · rintro ⟨_, ⟨r, hr, rfl⟩, hfqdn⟩
    exact ⟨r, hr, hfqdn⟩
  · rintro ⟨r, hr, hfqdn⟩
    exact ⟨_, ⟨r, hr, rfl⟩, hfqdn⟩
  · rintro ⟨_, ⟨x, hx, rfl⟩, hfqdn⟩
    exact ⟨x, hx, hfqdn⟩
  · rintro ⟨x, hx, hfqdn⟩
    exact ⟨_, ⟨x, hx, rfl⟩, hfqdn⟩

theorem transient_reported : (reported cause unavailable failures).transient ↔
    unavailable ≠ [] ∨ ∃ x ∈ failures, x.2.kind ≠ .remote := by
  rw [reported, BatchFailure.transient_takeAll]
  simp [absenceSteps, batchSteps, CallFailure.isTransient, List.eq_nil_iff_forall_not_mem]

end Reported

namespace FanOut

variable {spec : AddressSpec} {targets : List ReplicaTarget} {f : FanOut}

/-- The failures to report are at the domain names where a step failed. -/
theorem failedAt_iff (hf : f.Obeys spec targets) {fqdn : String} :
    f.FailedAt fqdn ↔ ∃ x ∈ f.failures, x.1.fqdn = fqdn := by
  simp only [failures, List.mem_append, List.mem_filterMap, Option.map_eq_some_iff, or_and_right,
    exists_or]
  refine or_congr ⟨?_, ?_⟩ ⟨?_, ?_⟩
  · rintro ⟨a, ha, hfqdn, hthere⟩
    rw [← failureOf_addressAlreadyExists, ← ne_eq, Option.ne_none_iff_exists'] at hthere
    obtain ⟨e, he⟩ := hthere
    exact ⟨(a.1, e), ⟨a, ha, e, he, rfl⟩, hfqdn⟩
  · rintro ⟨x, ⟨a, ha, e, he, rfl⟩, hfqdn⟩
    refine ⟨a, ha, hfqdn, ?_⟩
    simp [← failureOf_addressAlreadyExists, he]
  · rintro ⟨q, hq, hfqdn, hdone⟩
    rw [← QueueAnswers.failure?_eq_none_iff (hf.updated_iff q hq), ← ne_eq,
      Option.ne_none_iff_exists'] at hdone
    obtain ⟨e, he⟩ := hdone
    exact ⟨(q.1, e), ⟨q, hq, e, he, rfl⟩, hfqdn⟩
  · rintro ⟨x, ⟨q, hq, e, he, rfl⟩, hfqdn⟩
    refine ⟨q, hq, hfqdn, ?_⟩
    simp [← QueueAnswers.failure?_eq_none_iff (hf.updated_iff q hq), he]

/-- Where every target has the address, the queue is asked for at every target. -/
theorem accepted_eq (hf : f.Obeys spec targets) (hthere : ∀ a ∈ f.addressed, addressThere a.2) :
    f.accepted = targets := by
  rw [accepted, List.filter_eq_self.mpr hthere, hf.addressed_targets]

/-- A fan-out is complete exactly when there is no failure to report. -/
theorem complete_iff (hf : f.Obeys spec targets) : f.Complete spec targets ↔ f.failures = [] := by
  rw [failures, List.append_eq_nil_iff, List.filterMap_eq_nil_iff, List.filterMap_eq_nil_iff]
  simp only [Option.map_eq_none_iff, failureOf_addressAlreadyExists]
  refine and_congr_right fun hthere => ?_
  have hdone : (∀ q ∈ f.queued, q.2.failure? = none) ↔ ∀ q ∈ f.queued, q.2.done :=
    forall₂_congr fun q hq => QueueAnswers.failure?_eq_none_iff (hf.updated_iff q hq)
  -- with the address everywhere the queue was asked for everywhere, or no queue is declared
  have hqueued := hf.queued_targets
  rw [hdone]
  by_cases hqueue : f.payload.isSome
  · rw [if_pos hqueue, accepted_eq hf hthere] at hqueued
    obtain ⟨queue, hnamed⟩ := hf.asked.isSome_iff.mp hqueue
    exact ⟨fun hall => (hall queue hnamed).2, fun hall _ _ => ⟨hqueued, hall⟩⟩
  · rw [if_neg hqueue, List.map_eq_nil_iff] at hqueued
    have hunnamed : ∀ queue, ¬ QueuePayload.Names spec queue :=
      fun queue hnamed => hqueue (hf.asked.isSome_iff.mpr ⟨queue, hnamed⟩)
    exact ⟨fun _ => by simp [hqueued], fun _ queue hnamed => absurd hnamed (hunnamed queue)⟩

/-! ## The batch failure -/

variable {unavailable : List UnavailableReplica}

theorem isEmpty_batch (hf : f.Obeys spec targets) :
    (f.batch spec unavailable).isEmpty ↔ unavailable = [] ∧ f.Complete spec targets := by
  rw [complete_iff hf]
  exact isEmpty_reported

theorem mem_keys_batch (hf : f.Obeys spec targets) {fqdn : String} :
    fqdn ∈ (f.batch spec unavailable).detail.keys ↔
      (∃ r ∈ unavailable, r.fqdn = fqdn) ∨ f.FailedAt fqdn := by
  rw [failedAt_iff hf]
  exact mem_keys_reported

/-- An outcome that tells what a fan-out came to. -/
structure Explains (spec : AddressSpec) (found : ResolvedTargets) (f : FanOut)
    (outcome : Except Failure Unit) : Prop where
  ok_iff : outcome = .ok () ↔ found.unavailable = [] ∧ f.Complete spec found.targets
  batch : outcome ≠ .ok () → ∃ b : BatchFailure, outcome = .error (.batch b) ∧
    (∀ fqdn, fqdn ∈ b.detail.keys ↔ (∃ r ∈ found.unavailable, r.fqdn = fqdn) ∨ f.FailedAt fqdn) ∧
    ((Failure.batch b).requeue ↔ found.unavailable ≠ [] ∨ ∃ x ∈ f.failures, x.2.kind ≠ .remote)

theorem explains {found : ResolvedTargets} (hf : f.Obeys spec found.targets) :
    f.Explains spec found (outcomeOf (f.batch spec found.unavailable)) where
  ok_iff := by rw [← isEmpty_batch hf, outcomeOf_eq_ok_iff]
  batch hfailed :=
    ⟨f.batch spec found.unavailable, outcomeOf_of_ne_ok hfailed, fun fqdn => mem_keys_batch hf,
      transient_reported⟩

end FanOut

/-! ## The outcome -/

/-- Where the replicas are found and there is at least one, the outcome of bringing an address to
them is told by the answers to the calls: every failure is reported at its domain name, none is made
up, and the directive follows from the causes. -/
theorem ensure_outcome {σ : Type} {h : Handler surroundings σ} {domain ns : String}
    {spec : AddressSpec} {s : σ} {found : ResolvedTargets}
    (hreplicas : Task.outcome h (replicas domain ns spec) s = .ok found)
    (hne : found.isEmpty = false) :
    ∃ f : FanOut, f.Obeys spec found.targets ∧
      callsIn (Task.transcript h (ensure domain ns spec) s) = f.calls spec ∧
      f.Explains spec found (Task.outcome h (ensure domain ns spec) s) := by
  obtain ⟨f, hf, hasked, hvalue⟩ := ensure_fanOut hreplicas hne
  refine ⟨f, hf, ?_, ?_⟩
  · rw [hasked, callsIn_append, callsIn_replicas, callsIn_map_reply, List.nil_append]
  · rw [hvalue]
    exact f.explains hf

/-- One cluster of three replicas, the second without a pod: the state counts the pods that were
asked for. Calls are answered by a function. -/
def oneCluster (answer : ReplicaTarget → Call → CallResult) : Handler surroundings Nat
  | .listClusters _, n => (.ok [{ metadata := { name := some "broker" }, spec := {} }], n)
  | .getStatefulSet _, n => (.ok (some { spec := some { replicas := some 3 } }), n)
  | .getPod _, n => (.ok (if n = 1 then none else some {}), n + 1)
  | .getSecret _, n => (.ok none, n)
  | .call t c, n => (answer t c, n)
  | r, n => (r.refusal, n)

/-- The domain name of the first replica of that cluster. -/
def firstReplica : String := (ClusterNames.ofName "broker").fqdn 0 "default" "local"

/-- Answers of a fleet in which one replica can be reached. -/
def reachableAt (fqdn : String) (t : ReplicaTarget) (_ : Call) : CallResult :=
  if t.fqdn = fqdn then .ok .null else .error (.transport "call" "connection refused")

/-- Answers of a fleet in which one replica can be reached, whose broker has every queue already. -/
def holdingAt (fqdn : String) (t : ReplicaTarget) (c : Call) : CallResult :=
  if t.fqdn = fqdn then
    match c with
    | .createQueue _ _ => .error (.remote "create_queue_from_config" "AMQ229019: queue exists")
    | _ => .ok .null
  else .error (.transport "call" "connection refused")

def oneQueueSpec : AddressSpec := { addressName := "a", queueName := some "q" }

theorem length_callsIn_holdingAt :
    (callsIn (Task.transcript (oneCluster (holdingAt firstReplica))
      (ensure "local" "ns" oneQueueSpec) 0)).length = 4 := rfl

/-- Of the two targets one accepts the address; there the queue is asked for and then updated. -/
theorem ensure_outcome_oneCluster :
    ∃ found, Task.outcome (oneCluster (holdingAt firstReplica))
        (replicas "local" "ns" oneQueueSpec) 0 = .ok found ∧
      found.isEmpty = false ∧ ∃ f : FanOut, f.Obeys oneQueueSpec found.targets ∧
        f.payload.isSome ∧ (f.calls oneQueueSpec).length = 4 ∧
        callsIn (Task.transcript (oneCluster (holdingAt firstReplica))
          (ensure "local" "ns" oneQueueSpec) 0) = f.calls oneQueueSpec ∧
        f.Explains oneQueueSpec found
          (Task.outcome (oneCluster (holdingAt firstReplica))
            (ensure "local" "ns" oneQueueSpec) 0) := by
  obtain ⟨f, hf, hcalls, hexplains⟩ :=
    @ensure_outcome Nat (oneCluster (holdingAt firstReplica)) "local" "ns" oneQueueSpec 0 _ rfl rfl
  have hqueued : f.payload.isSome := hf.asked.isSome_iff.mpr ⟨"q", rfl, by decide⟩
  exact ⟨_, rfl, rfl, f, hf, hqueued, hcalls ▸ length_callsIn_holdingAt, hcalls, hexplains⟩

end BrokerFleet.AddressSync
