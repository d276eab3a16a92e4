import BrokerFleet.Proofs.Address.Outcome

/-! # The answers that a removal got

Removing a queue is told by the answers of the replicas: one to the deletion of the queue at every
target, and those about the address at every target where the queue is gone. The address is deleted
only where a listing has just said that nothing is bound to it. -/

namespace BrokerFleet.AddressSync

/-! ## Answers -/

/-- Whether a replica is without the queue after its deletion: it was deleted, or it was not
there. -/
def queueGone : CallResult → Bool
  | .ok _ => true
  | .error e => e.hasCode .queueDoesNotExist

theorem settles_queueDoesNotExist : settles .queueDoesNotExist = queueGone := by
  funext r
  cases r <;> rfl

/-- Whether the answer to a listing is that nothing is bound. -/
def nothingBound : CallResult → Bool
  | .ok bindings => !hasBindings bindings
  | .error _ => false

/-- A listing says that nothing is bound by no value, an empty list, or a text that is blank or
writes an empty list; a failed one does not say it. -/
theorem nothingBound_iff {answer : CallResult} : nothingBound answer = true ↔
    ∃ bindings, answer = .ok bindings ∧ (bindings = .null ∨ bindings = .arr [] ∨
      ∃ text, bindings = .str text ∧ (Text.trim text = "" ∨ Text.trim text = "[]")) := by
  simp only [← hasBindings_eq_false_iff]
  cases answer <;> simp [nothingBound]

/-- What a replica answered about the address: to the listing, and to a deletion if one was
tried. -/
structure ClearingAnswers where
  bindings : CallResult
  deleted : Option CallResult

/-- The answers that a removal got, in the order of the calls. -/
structure Withdrawal where
  deleted : List (ReplicaTarget × CallResult)
  cleared : List (ReplicaTarget × ClearingAnswers)

def queueCall (queue : String) (d : ReplicaTarget × CallResult) : CallRecord :=
  ⟨d.1, .deleteQueue queue, d.2⟩

/-- The listing of bindings, and the deletion of the address if one was tried, with their
answers. -/
def clearingCalls (address : String) (c : ReplicaTarget × ClearingAnswers) : List CallRecord :=
  ⟨c.1, .listBindings address, c.2.bindings⟩ ::
    c.2.deleted.toList.map fun a => ⟨c.1, .deleteAddress address, a⟩

namespace Withdrawal

/-- The targets where the queue is gone. -/
def freed (w : Withdrawal) : List ReplicaTarget :=
  (w.deleted.filter fun d => queueGone d.2).map Prod.fst

/-- Every target is asked once and in order to delete the queue; then every target where it is gone
is asked for the bindings of the address, and to delete the address exactly if there are none. -/
structure Obeys (targets : List ReplicaTarget) (w : Withdrawal) : Prop where
  deleted_targets : w.deleted.map Prod.fst = targets
  cleared_targets : w.cleared.map Prod.fst = w.freed
  deleted_iff : ∀ c ∈ w.cleared, c.2.deleted.isSome ↔ nothingBound c.2.bindings

def calls (queue address : String) (w : Withdrawal) : List CallRecord :=
  w.deleted.map (queueCall queue) ++ w.cleared.flatMap (clearingCalls address)

/-- The queue could not be deleted at a domain name. -/
def FailedAt (w : Withdrawal) (fqdn : String) : Prop :=
  ∃ d ∈ w.deleted, d.1.fqdn = fqdn ∧ ¬ queueGone d.2

def failures (w : Withdrawal) : List (ReplicaTarget × CallFailure) :=
  w.deleted.filterMap fun d => (failureOf .queueDoesNotExist d.2).map (d.1, ·)

theorem failures_eq_nil_iff {w : Withdrawal} :
    w.failures = [] ↔ ∀ d ∈ w.deleted, queueGone d.2 := by
  simp [failures, List.filterMap_eq_nil_iff, failureOf_eq_none_iff, settles_queueDoesNotExist]

theorem failedAt_iff_failures {w : Withdrawal} {fqdn : String} :
    w.FailedAt fqdn ↔ ∃ x ∈ w.failures, x.1.fqdn = fqdn := by
  constructor
  · rintro ⟨d, hd, hfqdn, hgone⟩
    rw [← settles_queueDoesNotExist, ← failureOf_eq_none_iff, ← ne_eq,
      Option.ne_none_iff_exists'] at hgone
    obtain ⟨e, he⟩ := hgone
    exact ⟨(d.1, e), List.mem_filterMap.mpr ⟨d, hd, by simp [he]⟩, hfqdn⟩
  · rintro ⟨x, hx, hfqdn⟩
    obtain ⟨d, hd, hreported⟩ := List.mem_filterMap.mp hx
    obtain ⟨e, he, rfl⟩ := Option.map_eq_some_iff.mp hreported
    refine ⟨d, hd, hfqdn, ?_⟩
    simp [← settles_queueDoesNotExist, ← failureOf_eq_none_iff, he]

end Withdrawal

/-! ## The steps and their answers -/

section Steps

variable {σ : Type} (h : Handler surroundings σ)

theorem runStep_deleteQueue (queue : String) (targets : List ReplicaTarget) (s : σ) :
    ∃ deleted : List (ReplicaTarget × CallResult), deleted.map Prod.fst = targets ∧
      (runStep (deleteQueue queue) targets).transcript h s =
        (deleted.map (queueCall queue)).map CallRecord.reply ∧
      ((runStep (deleteQueue queue) targets).run h s).1 =
        deleted.map fun d => (d.1, failureOf .queueDoesNotExist d.2) :=
  runStep_askOnce h .queueDoesNotExist (.deleteQueue queue) targets s

theorem deleteUnbound_answers (address : String) (t : ReplicaTarget) (s : σ) :
    ∃ c : ClearingAnswers, (c.deleted.isSome ↔ nothingBound c.bindings) ∧
      (deleteUnbound address t).transcript h s =
        (clearingCalls address (t, c)).map CallRecord.reply := by
  simp only [deleteUnbound, transcript_callReplica_bind]
  cases hlisted : (h (.call t (.listBindings address)) s).1 with
  | error e => exact ⟨⟨.error e, none⟩, by simp [nothingBound], rfl⟩
  | ok bindings =>
    by_cases hbound : hasBindings bindings = true
    · refine ⟨⟨.ok bindings, none⟩, by simp [nothingBound, hbound], ?_⟩
      simp [hbound, clearingCalls, CallRecord.reply]
    · -- the deletion is asked for in the state that the listing left
      obtain ⟨deleted, hdeleted⟩ : ∃ r : CallResult, (h (.call t (.deleteAddress address))
          (h (.call t (.listBindings address)) s).2).1 = r := ⟨_, rfl⟩
      refine ⟨⟨.ok bindings, some deleted⟩, by simp [nothingBound, hbound], ?_⟩
      simp [hbound, transcript_callReplica_bind, hdeleted, clearingCalls, CallRecord.reply]

theorem each_deleteUnbound (address : String) (targets : List ReplicaTarget) (s : σ) :
    ∃ cleared : List (ReplicaTarget × ClearingAnswers), cleared.map Prod.fst = targets ∧
      (∀ c ∈ cleared, c.2.deleted.isSome ↔ nothingBound c.2.bindings) ∧
      (Program.each (deleteUnbound address) targets).transcript h s =
        (cleared.flatMap (clearingCalls address)).map CallRecord.reply := by
  obtain ⟨cleared, htargets, hdeleted, hasked, -⟩ :=
    Program.each_described h Prod.fst (fun c => (clearingCalls address c).map CallRecord.reply)
      (fun _ => ()) (fun c => c.2.deleted.isSome ↔ nothingBound c.2.bindings)
      (f := deleteUnbound address)
      (fun t s => by
        obtain ⟨c, hdeleted, hasked⟩ := deleteUnbound_answers h address t s
        exact ⟨(t, c), rfl, hdeleted, hasked, rfl⟩) targets s
  exact ⟨cleared, htargets, hdeleted, by rw [hasked, List.map_flatMap]⟩

/-- Removing a queue asks for the calls of a withdrawal that obeys, and reports its failures. -/
theorem removeQueue_withdrawal (spec : AddressSpec) (queue : String) (found : ResolvedTargets)
    (s : σ) :
    ∃ w : Withdrawal, w.Obeys found.targets ∧
      Task.transcript h (removeQueue spec queue found) s =
        (w.calls queue spec.addressName).map CallRecord.reply ∧
      Task.outcome h (removeQueue spec queue found) s =
        outcomeOf (reported ("delete queue " ++ queue) found.unavailable w.failures) := by
  obtain ⟨deleted, htargets, hasked, hvalue⟩ := runStep_deleteQueue h queue found.targets s
  have hfreed : succeeded ((runStep (deleteQueue queue) found.targets).run h s).1 =
      (deleted.filter fun d => queueGone d.2).map Prod.fst := by
    rw [hvalue, succeeded_answered, settles_queueDoesNotExist]
  obtain ⟨cleared, hcleared, hdeleted, hasked'⟩ := each_deleteUnbound h spec.addressName
    ((deleted.filter fun d => queueGone d.2).map Prod.fst)
    ((runStep (deleteQueue queue) found.targets).run h s).2
  refine ⟨⟨deleted, cleared⟩, ⟨htargets, hcleared, hdeleted⟩, ?_, ?_⟩
  · rw [removeQueue, Task.transcript_bind_ok _ (Task.outcome_lift _ _ _),
      Task.transcript_bind_ok _ (Task.outcome_lift _ _ _)]
    simp [hasked, hfreed, hasked', Withdrawal.calls]
  · rw [removeQueue, Task.outcome_bind_ok _ (Task.outcome_lift _ _ _),
      Task.outcome_bind_ok _ (Task.outcome_lift _ _ _), outcome_conclude, hvalue,
      foldl_addFailure_startFailure, List.filterMap_map]
    rfl

end Steps

/-! ## What the calls keep to -/

/-- What the calls of a removal keep to: every target is asked once to delete the queue, and at most
once to delete the address; that is asked for only where the queue is gone, and right after a
listing which says that nothing is bound. -/
structure Careful (queue address : String) (targets : List ReplicaTarget)
    (calls : List CallRecord) :
    Prop where
  queue_once : (calls.filter fun c => c.call = .deleteQueue queue).map CallRecord.target = targets
  address_le : ∀ t, (calls.filter fun c => c.target = t ∧ c.call = .deleteAddress address).length ≤
    targets.count t
  guarded : ∀ before c after, calls = before ++ c :: after → c.call = .deleteAddress address →
    (∃ d ∈ before, d.target = c.target ∧ d.call = .deleteQueue queue ∧ queueGone d.answer) ∧
      ∃ earlier bindings, before = earlier ++ [⟨c.target, .listBindings address, bindings⟩] ∧
        nothingBound bindings

namespace Withdrawal

variable {queue address : String} {targets : List ReplicaTarget} {w : Withdrawal}

theorem call_of_mem_queueCalls {deleted : List (ReplicaTarget × CallResult)} {c : CallRecord}
    (hc : c ∈ deleted.map (queueCall queue)) : c.call = .deleteQueue queue := by
  obtain ⟨d, -, rfl⟩ := List.mem_map.mp hc
  rfl

theorem call_of_mem_clearingCalls {cleared : List (ReplicaTarget × ClearingAnswers)}
    {c : CallRecord} (hc : c ∈ cleared.flatMap (clearingCalls address)) :
    c.call = .listBindings address ∨ c.call = .deleteAddress address := by
  obtain ⟨x, -, hc⟩ := List.mem_flatMap.mp hc
  rcases List.mem_cons.mp hc with rfl | hc
  · exact .inl rfl
  · obtain ⟨a, -, rfl⟩ := List.mem_map.mp hc
    exact .inr rfl

theorem queue_once (hw : w.Obeys targets) :
    ((w.calls queue address).filter fun c => c.call = .deleteQueue queue).map CallRecord.target =
      targets := by
  have hqueue : (w.deleted.map (queueCall queue)).filter (fun c => c.call = .deleteQueue queue) =
      w.deleted.map (queueCall queue) :=
    List.filter_eq_self.mpr fun c hc => by simp [call_of_mem_queueCalls hc]
  have hclearing : (w.cleared.flatMap (clearingCalls address)).filter
      (fun c => c.call = .deleteQueue queue) = [] :=
    List.filter_eq_nil_iff.mpr fun c hc => by
      rcases call_of_mem_clearingCalls hc with h | h <;> simp [h]
  rw [calls, List.filter_append, hqueue, hclearing, List.append_nil, List.map_map,
    ← hw.deleted_targets]
  rfl

/-- The address is deleted at a target at most as often as its bindings were listed there. -/
theorem length_addressCalls_le (address : String) (t : ReplicaTarget)
    (cleared : List (ReplicaTarget × ClearingAnswers)) :
    ((cleared.flatMap (clearingCalls address)).filter
      fun c => c.target = t ∧ c.call = .deleteAddress address).length ≤
        (cleared.map Prod.fst).count t := by
  induction cleared with
  | nil => simp
  | cons c rest ih =>
    rw [List.flatMap_cons, List.filter_append, List.length_append, List.map_cons, List.count_cons]
    have hone : ((clearingCalls address c).filter
        fun r => r.target = t ∧ r.call = .deleteAddress address).length ≤
          if c.1 == t then 1 else 0 := by
      obtain ⟨t', bindings, _ | deleted⟩ := c
      · simp [clearingCalls]
      · by_cases ht : t' = t <;> simp [clearingCalls, ht]
    omega

theorem address_le (hw : w.Obeys targets) (t : ReplicaTarget) :
    ((w.calls queue address).filter
      fun c => c.target = t ∧ c.call = .deleteAddress address).length ≤ targets.count t := by
  have hqueue : (w.deleted.map (queueCall queue)).filter
      (fun c => c.target = t ∧ c.call = .deleteAddress address) = [] :=
    List.filter_eq_nil_iff.mpr fun c hc => by simp [call_of_mem_queueCalls hc]
  have hfreed : w.freed.Sublist targets := by
    rw [← hw.deleted_targets]
    exact List.filter_sublist.map Prod.fst
  calc _ = ((w.cleared.flatMap (clearingCalls address)).filter
        fun c => c.target = t ∧ c.call = .deleteAddress address).length := by
        rw [calls, List.filter_append, hqueue, List.nil_append]
    _ ≤ w.freed.count t := hw.cleared_targets ▸ length_addressCalls_le address t w.cleared
    _ ≤ targets.count t := hfreed.count_le t

/-- Whatever comes before the deletion of an address ends with the listing of its bindings. -/
theorem listed_before {cleared : List (ReplicaTarget × ClearingAnswers)}
    {before after : List CallRecord} {c : CallRecord}
    (hcalls : cleared.flatMap (clearingCalls address) = before ++ c :: after)
    (hc : c.call = .deleteAddress address) :
    ∃ x ∈ cleared, x.1 = c.target ∧ x.2.deleted.isSome ∧
      ∃ earlier, before = earlier ++ [⟨c.target, .listBindings address, x.2.bindings⟩] := by
  induction cleared generalizing before with
  | nil => simp at hcalls
  | cons x rest ih =>
    obtain ⟨t, bindings, deleted⟩ := x
    -- the calls at one target are a listing and maybe a deletion; only the latter can be this call
    cases before with
    | nil =>
      obtain ⟨rfl, -⟩ := List.cons.inj hcalls
      cases hc
    | cons listing before =>
      obtain ⟨rfl, hafter⟩ := List.cons.inj hcalls
      cases deleted with
      | none =>
        obtain ⟨x, hx, ht, hdeleted, earlier, rfl⟩ := ih hafter
        exact ⟨x, List.mem_cons_of_mem _ hx, ht, hdeleted, _ :: earlier, rfl⟩
      | some answer =>
        cases before with
        | nil =>
          obtain ⟨rfl, -⟩ := List.cons.inj hafter
          exact ⟨_, List.mem_cons_self, rfl, rfl, [], rfl⟩
        | cons deletion before =>
          obtain ⟨rfl, hlater⟩ := List.cons.inj hafter
          obtain ⟨x, hx, ht, hdeleted, earlier, rfl⟩ := ih hlater
          exact ⟨x, List.mem_cons_of_mem _ hx, ht, hdeleted, _ :: _ :: earlier, rfl⟩

theorem guarded (hw : w.Obeys targets) {before after : List CallRecord} {c : CallRecord}
    (hcalls : w.calls queue address = before ++ c :: after) (hc : c.call = .deleteAddress address) :
    (∃ d ∈ before, d.target = c.target ∧ d.call = .deleteQueue queue ∧ queueGone d.answer) ∧
      ∃ earlier bindings, before = earlier ++ [⟨c.target, .listBindings address, bindings⟩] ∧
        nothingBound bindings := by
  -- an address is deleted only after all the deletions of queues
  obtain ⟨middle, rfl, hclearing⟩ : ∃ middle, before = w.deleted.map (queueCall queue) ++ middle ∧
      w.cleared.flatMap (clearingCalls address) = middle ++ c :: after := by
    refine (place_of_append hcalls).resolve_left ?_
    rintro ⟨between, hqueue⟩
    have hd : c ∈ w.deleted.map (queueCall queue) := by simp [hqueue]
    rw [call_of_mem_queueCalls hd] at hc
    cases hc
  obtain ⟨x, hx, ht, hdeleted, earlier, rfl⟩ := listed_before hclearing hc
  have hfreed : x.1 ∈ w.freed := hw.cleared_targets ▸ List.mem_map_of_mem hx
  obtain ⟨d, hgone, hdx⟩ := List.mem_map.mp hfreed
  obtain ⟨hd, hgone⟩ := List.mem_filter.mp hgone
  refine ⟨⟨queueCall queue d, ?_, hdx.trans ht, rfl, hgone⟩,
    w.deleted.map (queueCall queue) ++ earlier, x.2.bindings, ?_, (hw.deleted_iff x hx).mp hdeleted⟩
  · exact List.mem_append_left _ (List.mem_map_of_mem hd)
  · rw [List.append_assoc]

theorem careful (hw : w.Obeys targets) : Careful queue address targets (w.calls queue address) where
  queue_once := queue_once hw
  address_le := address_le hw
  guarded _ _ _ hcalls hc := guarded hw hcalls hc

/-! ## The outcome -/

/-- An outcome that tells what a removal came to: what was answered about the address makes no
difference to it. -/
structure Explains (found : ResolvedTargets) (w : Withdrawal) (outcome : Except Failure Unit) :
    Prop where
  ok_iff : outcome = .ok () ↔ found.unavailable = [] ∧ ∀ d ∈ w.deleted, queueGone d.2
  batch : outcome ≠ .ok () → ∃ b : BatchFailure, outcome = .error (.batch b) ∧
    ∀ fqdn, fqdn ∈ b.detail.keys ↔ (∃ r ∈ found.unavailable, r.fqdn = fqdn) ∨ w.FailedAt fqdn

theorem explains (cause : String) (found : ResolvedTargets) (w : Withdrawal) :
    w.Explains found (outcomeOf (reported cause found.unavailable w.failures)) where
  ok_iff := by rw [outcomeOf_eq_ok_iff, isEmpty_reported, failures_eq_nil_iff]
  batch hfailed := by
    refine ⟨_, outcomeOf_of_ne_ok hfailed, fun fqdn => ?_⟩
    rw [mem_keys_reported, failedAt_iff_failures]

end Withdrawal

section Remove

variable {σ : Type} {h : Handler surroundings σ} {domain ns : String} {spec : AddressSpec} {s : σ}
  {found : ResolvedTargets} {queue : String}

theorem remove_of_isEmpty (hreplicas : Task.outcome h (replicas domain ns spec) s = .ok found)
    (hempty : found.isEmpty = true) :
    Task.outcome h (remove domain ns spec) s = .ok () ∧
      Task.transcript h (remove domain ns spec) s =
        Task.transcript h (replicas domain ns spec) s := by
  rw [remove, Task.outcome_bind_ok _ hreplicas, Task.transcript_bind_ok _ hreplicas]
  simp only [hempty, if_true]
  exact ⟨rfl, List.append_nil _⟩

/-- Where there are replicas, finding them is followed by the part of the removal that the
declaration asks for. -/
theorem remove_of_replicas (hreplicas : Task.outcome h (replicas domain ns spec) s = .ok found)
    (hne : found.isEmpty = false) {part : Task Unit}
    (hpart : spec.queue?.elim (removeAddress spec found) (removeQueue spec · found) = part) :
    Task.transcript h (remove domain ns spec) s =
        Task.transcript h (replicas domain ns spec) s ++
          Task.transcript h part (Task.after h (replicas domain ns spec) s) ∧
      Task.outcome h (remove domain ns spec) s =
        Task.outcome h part (Task.after h (replicas domain ns spec) s) := by
  rw [remove, Task.outcome_bind_ok _ hreplicas, Task.transcript_bind_ok _ hreplicas]
  simp only [hne, Bool.false_eq_true, if_false]
  subst hpart
  cases spec.queue? <;> exact ⟨rfl, rfl⟩

/-- Where the replicas are found, a declared queue is deleted once at every target, whatever the
other targets answer, and its address only where the queue is gone and nothing is bound to it; the
failure names the replicas that are not there and those that kept the queue, and nothing else. -/
theorem remove_outcome (hqueue : spec.queue? = some queue)
    (hreplicas : Task.outcome h (replicas domain ns spec) s = .ok found) :
    ∃ w : Withdrawal, w.Obeys found.targets ∧
      callsIn (Task.transcript h (remove domain ns spec) s) = w.calls queue spec.addressName ∧
      Careful queue spec.addressName found.targets
        (callsIn (Task.transcript h (remove domain ns spec) s)) ∧
      w.Explains found (Task.outcome h (remove domain ns spec) s) := by
  by_cases hempty : found.isEmpty = true
  · obtain ⟨houtcome, hasked⟩ := remove_of_isEmpty hreplicas hempty
    have hnone : found.targets = [] ∧ found.unavailable = [] := by
      simpa [ResolvedTargets.isEmpty] using hempty
    have hw : Withdrawal.Obeys found.targets ⟨[], []⟩ := ⟨by simp [hnone], rfl, by simp⟩
    have hcalls : callsIn (Task.transcript h (remove domain ns spec) s) = [] := by
      rw [hasked, callsIn_replicas]
    refine ⟨⟨[], []⟩, hw, hcalls, ?_, ?_⟩
    · rw [hcalls]
      exact Withdrawal.careful hw
    · rw [houtcome]
      exact ⟨by simp [hnone], fun hfailed => absurd rfl hfailed⟩
  · have hpart : spec.queue?.elim (removeAddress spec found) (removeQueue spec · found) =
        removeQueue spec queue found := by rw [hqueue, Option.elim_some]
    obtain ⟨hasked, houtcome⟩ := remove_of_replicas hreplicas (by simpa using hempty) hpart
    obtain ⟨w, hw, hremoved, hvalue⟩ := removeQueue_withdrawal h spec queue found
      (Task.after h (replicas domain ns spec) s)
    have hcalls : callsIn (Task.transcript h (remove domain ns spec) s) =
        w.calls queue spec.addressName := by
      rw [hasked, hremoved, callsIn_append, callsIn_replicas, callsIn_map_reply, List.nil_append]
    refine ⟨w, hw, hcalls, ?_, ?_⟩
    · rw [hcalls]
      exact Withdrawal.careful hw
    · rw [houtcome, hvalue]
      exact w.explains _ found

theorem remove_outcome_oneCluster :
    ∃ found, AddressSpec.queue? { addressName := "a", queueName := some "q" } = some "q" ∧
      Task.outcome (oneCluster (reachableAt firstReplica))
        (replicas "local" "ns" { addressName := "a", queueName := some "q" }) 0 = .ok found ∧
      ∃ w : Withdrawal, w.Obeys found.targets ∧
        callsIn (Task.transcript (oneCluster (reachableAt firstReplica))
          (remove "local" "ns" { addressName := "a", queueName := some "q" }) 0) = w.calls "q" "a" ∧
        Careful "q" "a" found.targets
          (callsIn (Task.transcript (oneCluster (reachableAt firstReplica))
          (remove "local" "ns" { addressName := "a", queueName := some "q" }) 0)) ∧
        w.Explains found (Task.outcome (oneCluster (reachableAt firstReplica))
          (remove "local" "ns" { addressName := "a", queueName := some "q" }) 0) :=
  ⟨_, by decide, rfl, remove_outcome (by decide) rfl⟩

end Remove

end BrokerFleet.AddressSync
