import BrokerFleet.Address.Sync
import BrokerFleet.Proofs.Failure.Batch
import BrokerFleet.Proofs.Management.Queue
import BrokerFleet.Proofs.Program.Task
import BrokerFleet.Proofs.Replica.Resolution

/-! # The answers that a fan-out got

Bringing an address to its replicas is told by the answers of the replicas: one to the creation of
the address at every target, and those about the queue at every target that has the address. The
calls, the outcome and the failure detail all follow from these answers. -/

namespace BrokerFleet

/-- A call to a replica with its answer. -/
structure CallRecord where
  target : ReplicaTarget
  call : Call
  answer : CallResult

namespace CallRecord

def reply (c : CallRecord) : surroundings.Reply := ⟨.call c.target c.call, c.answer⟩

/-- The call that a request was, if it was one. -/
def ofReply? : surroundings.Reply → Option CallRecord
  | ⟨.call target call, answer⟩ => some ⟨target, call, answer⟩
  | _ => none

end CallRecord

/-- The calls among requests, in order. -/
def callsIn (log : List surroundings.Reply) : List CallRecord := log.filterMap CallRecord.ofReply?

@[simp] theorem callsIn_append (xs ys : List surroundings.Reply) :
    callsIn (xs ++ ys) = callsIn xs ++ callsIn ys := List.filterMap_append

@[simp] theorem callsIn_map_reply (cs : List CallRecord) :
    callsIn (cs.map CallRecord.reply) = cs := by
  induction cs with
  | nil => rfl
  | cons c cs ih => exact congrArg (c :: ·) ih

theorem callsIn_eq_nil {log : List surroundings.Reply} (h : ∀ x ∈ log, x.1.isRead = true) :
    callsIn log = [] := by
  rw [callsIn, List.filterMap_eq_nil_iff]
  rintro ⟨r, a⟩ hx
  cases r <;> first | rfl | cases h _ hx

namespace AddressSync

/-! ## Answers -/

/-- Whether a replica has the address after its creation: it was created, or it was there. -/
def addressThere : CallResult → Bool
  | .ok _ => true
  | .error e => e.code == some .addressAlreadyExists

/-- Whether the answer to a creation is that the queue exists. -/
def queueExists : CallResult → Bool
  | .ok _ => false
  | .error e => e.code == some .queueAlreadyExists

theorem queueExists_error (e : CallFailure) :
    queueExists (.error e) = e.hasCode .queueAlreadyExists := rfl

/-- Whether an answer leaves nothing to report: the call succeeded, or the broker only says that
nothing was left to do. -/
def settles (harmless : BrokerCode) : CallResult → Bool
  | .ok _ => true
  | .error e => e.hasCode harmless

theorem settles_eq_isNone (harmless : BrokerCode) (r : CallResult) :
    settles harmless r = (failureOf harmless r).isNone := by
  cases r with
  | ok v => rfl
  | error e => cases he : e.hasCode harmless <;> simp [settles, failureOf, he]

theorem failureOf_eq_none_iff {harmless : BrokerCode} {r : CallResult} :
    failureOf harmless r = none ↔ settles harmless r := by
  rw [settles_eq_isNone, Option.isNone_iff_eq_none]

theorem settles_addressAlreadyExists : settles .addressAlreadyExists = addressThere := by
  funext r
  cases r <;> rfl

/-- What a replica answered about the queue: to its creation, and to an update if one was tried. -/
structure QueueAnswers where
  created : CallResult
  updated : Option CallResult

namespace QueueAnswers

/-- Whether the replica has the queue as declared: it was created, or it existed and was updated. -/
def done (q : QueueAnswers) : Bool :=
  match q.created, q.updated with
  | .ok _, _ => true
  | .error _, some (.ok _) => queueExists q.created
  | .error _, _ => false

/-- The failure to report: that of the update if one was tried, else that of the creation. -/
def failure? (q : QueueAnswers) : Option CallFailure :=
  match q.created, q.updated with
  | .ok _, _ => none
  | .error e, none => some e
  | .error _, some (.ok _) => none
  | .error _, some (.error e) => some e

end QueueAnswers

/-- The payload that was sent for a queue, if one was, and the answers that a fan-out got, in the
order of the calls. -/
structure FanOut where
  payload : Option QueuePayload
  addressed : List (ReplicaTarget × CallResult)
  queued : List (ReplicaTarget × QueueAnswers)

def addressCall (spec : AddressSpec) (a : ReplicaTarget × CallResult) : CallRecord :=
  ⟨a.1, .createAddress spec.addressName (spec.routingType.getD "MULTICAST"), a.2⟩

/-- The creation of a queue, and the update if one was tried, with their answers. -/
def queueCalls (p : QueuePayload) (q : ReplicaTarget × QueueAnswers) : List CallRecord :=
  ⟨q.1, .createQueue p.config p.ignoreIfExists, q.2.created⟩ ::
    q.2.updated.toList.map fun a => ⟨q.1, .updateQueue p.config, a⟩

namespace FanOut

def accepted (f : FanOut) : List ReplicaTarget :=
  (f.addressed.filter fun a => addressThere a.2).map Prod.fst

/-- The payload is what the declaration asks for. Every target is asked for the address once and in
order; then, if there is a payload, every target that has the address is asked for the queue, and
for an update exactly if the queue exists. -/
structure Obeys (spec : AddressSpec) (targets : List ReplicaTarget) (f : FanOut) : Prop where
  asked : QueuePayload.Asked spec f.payload
  addressed_targets : f.addressed.map Prod.fst = targets
  queued_targets : f.queued.map Prod.fst = if f.payload.isSome then f.accepted else []
  updated_iff : ∀ q ∈ f.queued, q.2.updated.isSome ↔ queueExists q.2.created

/-- The calls of a fan-out: those for the address before those for the queue. -/
def calls (spec : AddressSpec) (f : FanOut) : List CallRecord :=
  f.addressed.map (addressCall spec) ++ f.payload.elim [] fun p => f.queued.flatMap (queueCalls p)

/-- Every target has the address and, if the declaration names a queue, the queue. -/
def Complete (spec : AddressSpec) (targets : List ReplicaTarget) (f : FanOut) : Prop :=
  (∀ a ∈ f.addressed, addressThere a.2) ∧
    ∀ queue, QueuePayload.Names spec queue → f.queued.map Prod.fst = targets ∧
    ∀ q ∈ f.queued, q.2.done

/-- A step failed at a domain name. -/
def FailedAt (f : FanOut) (fqdn : String) : Prop :=
  (∃ a ∈ f.addressed, a.1.fqdn = fqdn ∧ ¬ addressThere a.2) ∨
    ∃ q ∈ f.queued, q.1.fqdn = fqdn ∧ ¬ q.2.done

/-- The failures to report, each with its target. -/
def failures (f : FanOut) : List (ReplicaTarget × CallFailure) :=
  (f.addressed.filterMap fun a => (failureOf .addressAlreadyExists a.2).map (a.1, ·)) ++
    f.queued.filterMap fun q => q.2.failure?.map (q.1, ·)

end FanOut

/-! ## The steps and their answers -/

section Steps

variable {σ : Type} (h : Handler surroundings σ)

/-- A step of one call, whose failure is reported unless the broker only says that nothing was left
to do. -/
def askOnce (harmless : BrokerCode) (call : Call) : Step := fun t => do
  let result ← callReplica t call
  pure (failureOf harmless result)

theorem runStep_askOnce (harmless : BrokerCode) (call : Call) (targets : List ReplicaTarget)
    (s : σ) :
    ∃ answers : List (ReplicaTarget × CallResult), answers.map Prod.fst = targets ∧
      (runStep (askOnce harmless call) targets).transcript h s =
        (answers.map fun a => ⟨a.1, call, a.2⟩).map CallRecord.reply ∧
      ((runStep (askOnce harmless call) targets).run h s).1 =
        answers.map fun a => (a.1, failureOf harmless a.2) := by
  obtain ⟨answers, htargets, _, hasked, hvalue⟩ :=
    Program.each_described h Prod.fst (fun a => [CallRecord.reply ⟨a.1, call, a.2⟩])
      (fun a => (a.1, failureOf harmless a.2)) (fun _ => True)
      (f := fun t => do pure (t, ← askOnce harmless call t))
      (fun t s => ⟨(t, (h (.call t call) s).1), rfl, trivial, rfl, rfl⟩) targets s
  refine ⟨answers, htargets, ?_, hvalue⟩
  rw [runStep, hasked, List.map_map, List.map_eq_flatMap]
  rfl

theorem runStep_ensureAddress (spec : AddressSpec) (targets : List ReplicaTarget) (s : σ) :
    ∃ addressed : List (ReplicaTarget × CallResult), addressed.map Prod.fst = targets ∧
      (runStep (ensureAddress spec) targets).transcript h s =
        (addressed.map (addressCall spec)).map CallRecord.reply ∧
      ((runStep (ensureAddress spec) targets).run h s).1 =
        addressed.map fun a => (a.1, failureOf .addressAlreadyExists a.2) :=
  runStep_askOnce h .addressAlreadyExists (.createAddress spec.addressName (routing spec)) targets s

theorem ensureQueue_answers (p : QueuePayload) (t : ReplicaTarget) (s : σ) :
    ∃ q : QueueAnswers, (q.updated.isSome ↔ queueExists q.created) ∧
      (ensureQueue p t).transcript h s = (queueCalls p (t, q)).map CallRecord.reply ∧
      ((ensureQueue p t).run h s).1 = q.failure? := by
  simp only [ensureQueue, transcript_callReplica_bind, run_callReplica_bind]
  cases hcreated : (h (.call t (.createQueue p.config p.ignoreIfExists)) s).1 with
  | ok v => exact ⟨⟨.ok v, none⟩, by simp [queueExists], rfl, rfl⟩
  | error e =>
    by_cases hexists : e.hasCode .queueAlreadyExists
    · obtain ⟨updated, hupdated⟩ : ∃ u : CallResult, (h (.call t (.updateQueue p.config))
          (h (.call t (.createQueue p.config p.ignoreIfExists)) s).2).1 = u := ⟨_, rfl⟩
      refine ⟨⟨.error e, some updated⟩, by simp [queueExists_error, hexists], ?_, ?_⟩
      · simp only [hexists, if_true, transcript_callReplica_bind, hupdated]
        cases updated <;> rfl
      · simp only [hexists, if_true, run_callReplica_bind, hupdated]
        cases updated <;> rfl
    · refine ⟨⟨.error e, none⟩, by simp [queueExists_error, hexists], ?_, ?_⟩
      · simp [hexists, queueCalls, CallRecord.reply]
      · simp [hexists, QueueAnswers.failure?]

theorem runStep_ensureQueue (p : QueuePayload) (targets : List ReplicaTarget) (s : σ) :
    ∃ queued : List (ReplicaTarget × QueueAnswers), queued.map Prod.fst = targets ∧
      (∀ q ∈ queued, q.2.updated.isSome ↔ queueExists q.2.created) ∧
      (runStep (ensureQueue p) targets).transcript h s =
        (queued.flatMap (queueCalls p)).map CallRecord.reply ∧
      ((runStep (ensureQueue p) targets).run h s).1 =
        queued.map fun q => (q.1, q.2.failure?) := by
  obtain ⟨queued, htargets, hupdated, hasked, hvalue⟩ :=
    Program.each_described h Prod.fst (fun q => (queueCalls p q).map CallRecord.reply)
      (fun q => (q.1, q.2.failure?)) (fun q => q.2.updated.isSome ↔ queueExists q.2.created)
      (f := fun t => do pure (t, ← ensureQueue p t))
      (fun t s => by
        obtain ⟨q, hupdated, hasked, hvalue⟩ := ensureQueue_answers h p t s
        refine ⟨(t, q), rfl, hupdated, ?_, ?_⟩
        · simp [Program.transcript_bind, hasked]
        · simp [Program.run_bind, hvalue]) targets s
  exact ⟨queued, htargets, hupdated, by rw [runStep, hasked, List.map_flatMap], hvalue⟩

theorem mem_succeeded {outcomes : Outcomes} {t : ReplicaTarget} :
    t ∈ succeeded outcomes ↔ (t, none) ∈ outcomes := by
  simp only [succeeded, List.mem_filterMap, Option.ite_none_right_eq_some,
    Option.isNone_iff_eq_none, Option.some.injEq]
  constructor
  · rintro ⟨⟨t, _⟩, hmem, rfl, rfl⟩
    exact hmem
  · exact fun hmem => ⟨_, hmem, rfl, rfl⟩

theorem succeeded_answered (harmless : BrokerCode) (answers : List (ReplicaTarget × CallResult)) :
    succeeded (answers.map fun a => (a.1, failureOf harmless a.2)) =
      (answers.filter fun a => settles harmless a.2).map Prod.fst := by
  rw [succeeded, List.filterMap_map, ← List.filterMap_eq_map, List.filterMap_filter]
  congr 1
  funext a
  simp only [Function.comp, settles_eq_isNone]

def batchSteps (failures : List (ReplicaTarget × CallFailure)) : List BatchStep :=
  failures.map fun x => ⟨x.1.fqdn, x.2.message, x.2.isTransient⟩

/-- Replicas that are not there may come back: the reason at their domain names is transient. -/
def absenceSteps (unavailable : List UnavailableReplica) : List BatchStep :=
  unavailable.map fun r => ⟨r.fqdn, r.reason, true⟩

theorem startFailure_eq (cause : String) (unavailable : List UnavailableReplica) :
    startFailure cause unavailable =
      ({ cause } : BatchFailure).takeAll (absenceSteps unavailable) := by
  simp [startFailure, BatchFailure.takeAll, absenceSteps, List.foldl_map, BatchFailure.take]

theorem foldl_addFailure_eq (f : BatchFailure) (outcomes : Outcomes) :
    outcomes.foldl addFailure f =
      f.takeAll (batchSteps (outcomes.filterMap fun o => o.2.map (o.1, ·))) := by
  induction outcomes generalizing f with
  | nil => rfl
  | cons o rest ih =>
    rw [List.foldl_cons, ih]
    obtain ⟨t, _ | e⟩ := o <;> rfl

/-- The failure of a cause with the replicas that are not there and the failures at targets. -/
def reported (cause : String) (unavailable : List UnavailableReplica)
    (failures : List (ReplicaTarget × CallFailure)) : BatchFailure :=
  ({ cause } : BatchFailure).takeAll (absenceSteps unavailable ++ batchSteps failures)

theorem foldl_addFailure_startFailure (cause : String) (unavailable : List UnavailableReplica)
    (outcomes : Outcomes) :
    outcomes.foldl addFailure (startFailure cause unavailable) =
      reported cause unavailable (outcomes.filterMap fun o => o.2.map (o.1, ·)) := by
  rw [foldl_addFailure_eq, startFailure_eq, ← BatchFailure.takeAll_append, reported]

def FanOut.batch (spec : AddressSpec) (unavailable : List UnavailableReplica) (f : FanOut) :
    BatchFailure :=
  ({ cause := "apply address " ++ spec.addressName } : BatchFailure).takeAll
    (absenceSteps unavailable ++ batchSteps f.failures)

theorem FanOut.batch_eq (spec : AddressSpec) (unavailable : List UnavailableReplica) (f : FanOut) :
    ((f.addressed.map fun a => (a.1, failureOf .addressAlreadyExists a.2)) ++
        f.queued.map fun q => (q.1, q.2.failure?)).foldl addFailure
      (startFailure ("apply address " ++ spec.addressName) unavailable) =
        f.batch spec unavailable := by
  rw [foldl_addFailure_startFailure, List.filterMap_append, List.filterMap_map, List.filterMap_map]
  rfl

/-- Bringing an address to replicas asks for the calls of a fan-out that obeys, and reports its
failures. -/
theorem ensureOn_fanOut (spec : AddressSpec) (found : ResolvedTargets) (s : σ) :
    ∃ f : FanOut, f.Obeys spec found.targets ∧
      (ensureOn spec found).transcript h s = (f.calls spec).map CallRecord.reply ∧
      ((ensureOn spec found).run h s).1 = f.batch spec found.unavailable := by
  obtain ⟨addressed, htargets, hasked, hvalue⟩ := runStep_ensureAddress h spec found.targets s
  have hpayload := QueuePayload.asked_ofSpec? spec
  cases hp : QueuePayload.ofSpec? spec with
  | none =>
    refine ⟨⟨none, addressed, []⟩, ⟨hp ▸ hpayload, htargets, rfl, by simp⟩, ?_, ?_⟩
    · simp [ensureOn, hp, FanOut.calls, Program.transcript_bind, hasked]
    · rw [← FanOut.batch_eq]
      simp [ensureOn, hp, Program.run_bind, hvalue]
  | some p =>
    -- the queue step starts in the state that the address step left, on the targets it accepted
    obtain ⟨queued, hqueued, hupdated, hasked', hvalue'⟩ := runStep_ensureQueue h p
      ((addressed.filter fun a => addressThere a.2).map Prod.fst)
      ((runStep (ensureAddress spec) found.targets).run h s).2
    refine ⟨⟨some p, addressed, queued⟩, ⟨hp ▸ hpayload, htargets, hqueued, hupdated⟩, ?_, ?_⟩
    · simp [ensureOn, hp, FanOut.calls, Program.transcript_bind, hasked, hvalue,
        succeeded_answered, settles_addressAlreadyExists, hasked']
    · rw [← FanOut.batch_eq]
      simp [ensureOn, hp, Program.run_bind, hvalue, succeeded_answered,
        settles_addressAlreadyExists, hvalue']

end Steps

/-! ## From the declaration to the outcome -/

section Ensure

/-- What a batch failure comes to: success, if no target failed. -/
def outcomeOf (f : BatchFailure) : Except Failure Unit :=
  if f.isEmpty then .ok () else .error (.batch f)

theorem outcomeOf_eq_ok_iff {f : BatchFailure} : outcomeOf f = .ok () ↔ f.isEmpty := by
  unfold outcomeOf
  split <;> simp_all

theorem outcomeOf_of_ne_ok {f : BatchFailure} (hfailed : outcomeOf f ≠ .ok ()) :
    outcomeOf f = .error (.batch f) :=
  if_neg fun hempty => hfailed (if_pos hempty)

variable {σ : Type} {h : Handler surroundings σ} {domain ns : String} {spec : AddressSpec} {s : σ}

@[simp] theorem transcript_conclude (f : BatchFailure) (s : σ) :
    Task.transcript h (conclude f) s = [] := by
  unfold conclude
  split <;> rfl

@[simp] theorem outcome_conclude (f : BatchFailure) (s : σ) :
    Task.outcome h (conclude f) s = outcomeOf f := by
  unfold conclude outcomeOf
  split <;> rfl

/-- Finding the replicas calls none of them. -/
@[simp] theorem callsIn_replicas : callsIn (Task.transcript h (replicas domain ns spec) s) = [] :=
  callsIn_eq_nil ((ResolvedTargets.reading_resolve domain ns
    (.ofNames spec.applyToClusterNames)).asks.transcript h s)

/-- Replicas that cannot be found fail the whole, before any call. -/
theorem ensure_of_error {e : Failure}
    (hreplicas : Task.outcome h (replicas domain ns spec) s = .error e) :
    Task.outcome h (ensure domain ns spec) s = .error e ∧
      Task.transcript h (ensure domain ns spec) s = Task.transcript h (replicas domain ns spec) s :=
  ⟨Task.outcome_bind_error _ hreplicas, Task.transcript_bind_error _ hreplicas⟩

variable {found : ResolvedTargets}
  (hreplicas : Task.outcome h (replicas domain ns spec) s = .ok found)

include hreplicas

/-- Where there is no replica at all, nothing is called. -/
theorem ensure_of_isEmpty (hempty : found.isEmpty = true) :
    (∃ text, Task.outcome h (ensure domain ns spec) s = .error (.noManagementClient text)) ∧
      Task.transcript h (ensure domain ns spec) s =
        Task.transcript h (replicas domain ns spec) s := by
  rw [ensure, Task.outcome_bind_ok _ hreplicas, Task.transcript_bind_ok _ hreplicas]
  simp only [hempty, if_true]
  rw [Task.outcome_bind_error _ (Task.outcome_throw _ _ _),
    Task.transcript_bind_error _ (Task.outcome_throw _ _ _)]
  exact ⟨⟨_, rfl⟩, by simp⟩

theorem ensure_of_replicas (hne : found.isEmpty = false) :
    Task.transcript h (ensure domain ns spec) s =
        Task.transcript h (replicas domain ns spec) s ++
          (ensureOn spec found).transcript h (Task.after h (replicas domain ns spec) s) ∧
      Task.outcome h (ensure domain ns spec) s =
        outcomeOf ((ensureOn spec found).run h (Task.after h (replicas domain ns spec) s)).1 := by
  rw [ensure, Task.transcript_bind_ok _ hreplicas, Task.outcome_bind_ok _ hreplicas]
  simp only [hne, Bool.false_eq_true, if_false]
  rw [Task.transcript_bind_ok _ (Task.outcome_lift _ _ _),
    Task.outcome_bind_ok _ (Task.outcome_lift _ _ _)]
  simp

theorem after_ensure_of_isEmpty (hempty : found.isEmpty = true) :
    Task.after h (ensure domain ns spec) s = Task.after h (replicas domain ns spec) s := by
  rw [ensure, Task.after_bind_ok _ hreplicas]
  simp only [hempty, if_true]
  exact Task.after_bind_error _ (Task.outcome_throw _ _ _)

theorem after_ensure_of_replicas (hne : found.isEmpty = false) :
    Task.after h (ensure domain ns spec) s =
      ((ensureOn spec found).run h (Task.after h (replicas domain ns spec) s)).2 := by
  rw [ensure, Task.after_bind_ok _ hreplicas]
  simp only [hne, Bool.false_eq_true, if_false]
  rw [Task.after_bind_ok _ (Task.outcome_lift _ _ _), Task.after_lift]
  unfold conclude
  split <;> rfl

/-- Where there are replicas, the readings are followed by the calls of a fan-out that obeys, and
the outcome is its batch failure, or success if that is empty. -/
theorem ensure_fanOut (hne : found.isEmpty = false) :
    ∃ f : FanOut, f.Obeys spec found.targets ∧
      Task.transcript h (ensure domain ns spec) s =
        Task.transcript h (replicas domain ns spec) s ++ (f.calls spec).map CallRecord.reply ∧
      Task.outcome h (ensure domain ns spec) s = outcomeOf (f.batch spec found.unavailable) := by
  obtain ⟨f, hobeys, hasked, hvalue⟩ :=
    ensureOn_fanOut h spec found (Task.after h (replicas domain ns spec) s)
  obtain ⟨htranscript, houtcome⟩ := ensure_of_replicas hreplicas hne
  exact ⟨f, hobeys, by rw [htranscript, hasked], by rw [houtcome, hvalue]⟩

end Ensure

end AddressSync

end BrokerFleet
