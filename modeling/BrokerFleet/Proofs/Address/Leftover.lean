import BrokerFleet.Proofs.Address.Window
import BrokerFleet.Proofs.Address.Withdrawal

/-! # What a removal leaves behind

A removal that reports success has freed every replica of the queue, but not of the address: a
listing of bindings that fails, and a deletion of the address that fails, are passed over. Every
address is settled exactly if no such call failed. -/

namespace BrokerFleet.AddressSync

/-! ## Answers about the address -/

/-- Whether a replica is without the address after its deletion: it was deleted, or it was not
there. -/
def addressGone : CallResult → Bool
  | .ok _ => true
  | .error e => e.hasCode .addressDoesNotExist

def somethingBound : CallResult → Bool
  | .ok bindings => hasBindings bindings
  | .error _ => false

/-- The address is still in use, or it was deleted, or it was missing. -/
def ClearingAnswers.settled (c : ClearingAnswers) : Bool :=
  somethingBound c.bindings || c.deleted.any addressGone

/-- Whether a call left it open what becomes of an address: its bindings could not be listed, or it
could not be deleted. -/
def leavesOpen (address : String) (c : CallRecord) : Bool :=
  (c.call = .listBindings address && !c.answer.isOk) ||
    (c.call = .deleteAddress address && !addressGone c.answer)

theorem leavesOpen_queueCall (address queue : String) (d : ReplicaTarget × CallResult) :
    leavesOpen address (queueCall queue d) = false := by
  simp [leavesOpen, queueCall]

/-- An address is settled at a target exactly if no call about it failed there. -/
theorem settled_iff (address : String) {c : ReplicaTarget × ClearingAnswers}
    (hdeleted : c.2.deleted.isSome ↔ nothingBound c.2.bindings) :
    c.2.settled ↔ ∀ x ∈ clearingCalls address c, leavesOpen address x = false := by
  obtain ⟨t, bindings, deleted⟩ := c
  cases bindings with
  | error e =>
    -- without a listing there is no deletion, and the listing itself is what failed
    have hnone : deleted = none := by simpa [nothingBound] using hdeleted
    simp [hnone, clearingCalls, leavesOpen, ClearingAnswers.settled, somethingBound, Except.isOk,
      Except.toBool]
  | ok v =>
    cases deleted with
    | none =>
      have hbound : hasBindings v = true := by simpa [nothingBound] using hdeleted
      simp [hbound, clearingCalls, leavesOpen, ClearingAnswers.settled, somethingBound, Except.isOk,
        Except.toBool]
    | some answer =>
      have hfree : hasBindings v = false := by simpa [nothingBound] using hdeleted
      simp [hfree, clearingCalls, leavesOpen, ClearingAnswers.settled, somethingBound, Except.isOk,
        Except.toBool]

namespace Withdrawal

variable {queue address : String} {targets : List ReplicaTarget} {w : Withdrawal}

theorem settled_iff_calls (hw : w.Obeys targets) :
    (∀ c ∈ w.cleared, c.2.settled) ↔ ∀ x ∈ w.calls queue address, leavesOpen address x = false := by
  have hqueue : ∀ x ∈ w.deleted.map (queueCall queue), leavesOpen address x = false := by
    intro x hx
    obtain ⟨d, -, rfl⟩ := List.mem_map.mp hx
    exact leavesOpen_queueCall address queue d
  calc (∀ c ∈ w.cleared, c.2.settled)
      ↔ ∀ c ∈ w.cleared, ∀ x ∈ clearingCalls address c, leavesOpen address x = false :=
        forall₂_congr fun c hc => settled_iff address (hw.deleted_iff c hc)
    _ ↔ ∀ x ∈ w.cleared.flatMap (clearingCalls address), leavesOpen address x = false :=
        List.forall_mem_flatMap.symm
    _ ↔ ∀ x ∈ w.calls queue address, leavesOpen address x = false := by
        rw [calls, List.forall_mem_append]
        exact (and_iff_right hqueue).symm

/-- Where the queue is gone everywhere, the bindings of the address are asked for everywhere. -/
theorem freed_eq (hw : w.Obeys targets) (hgone : ∀ d ∈ w.deleted, queueGone d.2) :
    w.freed = targets := by
  rw [freed, List.filter_eq_self.mpr hgone, hw.deleted_targets]

end Withdrawal

/-! ## After a success -/

section Remove

variable {σ : Type} {h : Handler surroundings σ} {domain ns : String} {spec : AddressSpec} {s : σ}
  {queue : String}

/-- A removal that reports success found its replicas. -/
theorem replicas_of_remove_ok (hok : Task.outcome h (remove domain ns spec) s = .ok ()) :
    ∃ found, Task.outcome h (replicas domain ns spec) s = .ok found := by
  cases hreplicas : Task.outcome h (replicas domain ns spec) s with
  | ok found => exact ⟨found, rfl⟩
  | error e =>
    rw [remove, Task.outcome_bind_error _ hreplicas] at hok
    cases hok

/-- A removal that reports success found every replica, freed it of the queue and asked it about the
address. At every replica the address is deleted, missing or still bound exactly if no listing of
its bindings failed and no deletion of it did: such failures change nothing in the report. -/
theorem remove_ok_settled (hqueue : spec.queue? = some queue)
    (hok : Task.outcome h (remove domain ns spec) s = .ok ()) :
    ∃ found, Task.outcome h (replicas domain ns spec) s = .ok found ∧ found.unavailable = [] ∧
      ∃ w : Withdrawal, w.Obeys found.targets ∧
        callsIn (Task.transcript h (remove domain ns spec) s) = w.calls queue spec.addressName ∧
        (∀ d ∈ w.deleted, queueGone d.2) ∧ w.cleared.map Prod.fst = found.targets ∧
        ((∀ c ∈ w.cleared, c.2.settled) ↔
          ∀ x ∈ callsIn (Task.transcript h (remove domain ns spec) s),
            leavesOpen spec.addressName x = false) := by
  obtain ⟨found, hreplicas⟩ := replicas_of_remove_ok hok
  obtain ⟨w, hw, hcalls, -, hexplains⟩ := remove_outcome hqueue hreplicas
  obtain ⟨havailable, hgone⟩ := hexplains.ok_iff.mp hok
  refine ⟨found, hreplicas, havailable, w, hw, hcalls, hgone, ?_, ?_⟩
  · rw [hw.cleared_targets, Withdrawal.freed_eq hw hgone]
  · rw [hcalls]
    exact Withdrawal.settled_iff_calls hw

/-- A fleet of one replica whose calls are answered by a function. -/
def oneReplicaAnswering (answer : Call → CallResult) : Handler surroundings Unit
  | .call _ c, s => (answer c, s)
  | r, s => AddressLifecycle.oneReplica r s

def queuedAddress : AddressSpec := { addressName := "a", queueName := some "q" }

theorem remove_ok_settled_oneReplica :
    let h := oneReplicaAnswering fun _ => .ok .null
    queuedAddress.queue? = some "q" ∧
      Task.outcome h (remove "local" "n" queuedAddress) () = .ok () ∧
      ∃ found, Task.outcome h (replicas "local" "n" queuedAddress) () = .ok found ∧
        found.unavailable = [] ∧
        ∃ w : Withdrawal, w.Obeys found.targets ∧
          callsIn (Task.transcript h (remove "local" "n" queuedAddress) ()) = w.calls "q" "a" ∧
          (∀ d ∈ w.deleted, queueGone d.2) ∧ w.cleared.map Prod.fst = found.targets ∧
          ((∀ c ∈ w.cleared, c.2.settled) ↔
            ∀ x ∈ callsIn (Task.transcript h (remove "local" "n" queuedAddress) ()),
              leavesOpen "a" x = false) :=
  ⟨rfl, rfl, remove_ok_settled (by decide) rfl⟩

/-- Answers of a broker that cannot be reached while bindings are listed. -/
def unlistable : Call → CallResult
  | .listBindings _ => .error (.transport "list_bindings" "connection refused")
  | _ => .ok .null

/-- The bindings of an address cannot be listed, so it is never asked to go; the removal reports
success. -/
theorem unlisted_address_left_behind :
    let h := oneReplicaAnswering unlistable
    Task.outcome h (remove "local" "n" queuedAddress) () = .ok () ∧
      ∃ found, Task.outcome h (replicas "local" "n" queuedAddress) () = .ok found ∧
        ∃ w : Withdrawal, w.Obeys found.targets ∧
          callsIn (Task.transcript h (remove "local" "n" queuedAddress) ()) = w.calls "q" "a" ∧
          ∃ c ∈ w.cleared, c.2.settled = false ∧ c.2.deleted = none := by
  let t : ReplicaTarget :=
    { cluster := ⟨"n", "c"⟩, ordinal := 0, fqdn := (ClusterNames.ofName "c").fqdn 0 "n" "local",
      credentials := {} }
  let unlisted : ClearingAnswers := ⟨unlistable (.listBindings "a"), none⟩
  refine ⟨rfl, ⟨[t], []⟩, rfl, ⟨[(t, .ok .null)], [(t, unlisted)]⟩, ?_, rfl, ?_⟩
  · exact ⟨rfl, rfl, by simp [unlisted, unlistable, nothingBound]⟩
  · exact ⟨(t, unlisted), List.mem_singleton_self _, rfl, rfl⟩

end Remove

end BrokerFleet.AddressSync
