import BrokerFleet.Proofs.Address.Leftover
import BrokerFleet.Proofs.Address.Requests

/-! # Deleting a bare address

An address without a queue is deleted from one replica after the other, up to the first that is not
without it then. A removal that stopped there is taken up by the next one: the replicas that were
cleaned say that the address does not exist, which is no failure, so no removal ends at a replica
that an earlier one cleaned. -/

namespace BrokerFleet

theorem CallFailure.requeue_toFailure (e : CallFailure) : e.toFailure.requeue = e.isTransient := by
  obtain ⟨operation, kind, text, code⟩ := e
  cases kind <;> rfl

namespace AddressSync

variable {σ : Type} {h : Handler surroundings σ} {address : String}

/-! ## One replica after the other -/

/-- The deletions of an address from replicas in turn, and what they come to. A replica that is
without the address then is followed by the next; any other answer is the last. -/
inductive Deletions (address : String) :
    List ReplicaTarget → List CallRecord → Except Failure Unit → Prop where
  | done : Deletions address [] [] (.ok ())
  | gone {t : ReplicaTarget} {rest : List ReplicaTarget} {answer : CallResult}
      {calls : List CallRecord} {outcome : Except Failure Unit} (hgone : addressGone answer = true)
      (hrest : Deletions address rest calls outcome) :
      Deletions address (t :: rest) (⟨t, .deleteAddress address, answer⟩ :: calls) outcome
  | stopped {t : ReplicaTarget} {rest : List ReplicaTarget} {e : CallFailure}
      (hleft : e.hasCode .addressDoesNotExist = false) :
      Deletions address (t :: rest) [⟨t, .deleteAddress address, .error e⟩] (.error e.toFailure)

theorem settles_addressDoesNotExist : settles .addressDoesNotExist = addressGone := by
  funext r
  cases r <;> rfl

/-- Deleting an address from replicas asks for such deletions, and nothing else. -/
theorem deletions_deleteAddress (h : Handler surroundings σ) (address : String)
    (targets : List ReplicaTarget) (s : σ) :
    ∃ calls, Task.transcript h (deleteAddress address targets) s = calls.map CallRecord.reply ∧
      Deletions address targets calls (Task.outcome h (deleteAddress address targets) s) := by
  induction targets generalizing s with
  | nil => exact ⟨[], rfl, .done⟩
  | cons t rest ih =>
    obtain ⟨answer, hanswer⟩ : ∃ r : CallResult, (h (.call t (.deleteAddress address)) s).1 = r :=
      ⟨_, rfl⟩
    have hvalue : Task.outcome h (Task.lift (callReplica t (.deleteAddress address))) s =
        .ok answer := by
      rw [Task.outcome_lift, ← hanswer]
      rfl
    have hasked : Task.transcript h (Task.lift (callReplica t (.deleteAddress address))) s =
        [CallRecord.reply ⟨t, .deleteAddress address, answer⟩] := by
      rw [Task.transcript_lift, ← hanswer]
      rfl
    rw [deleteAddress, Task.transcript_bind_ok _ hvalue, Task.outcome_bind_ok _ hvalue, hasked]
    cases hfailure : failureOf .addressDoesNotExist answer with
    | none =>
      obtain ⟨calls, hcalls, hrest⟩ :=
        ih (Task.after h (Task.lift (callReplica t (.deleteAddress address))) s)
      have hgone : addressGone answer = true := by
        rwa [← settles_addressDoesNotExist, ← failureOf_eq_none_iff]
      exact ⟨_ :: calls, by rw [hcalls]; rfl, .gone hgone hrest⟩
    | some e =>
      -- what is reported is the failure of the call, which does not say that the address does not
      -- exist
      obtain ⟨rfl, hleft⟩ : answer = .error e ∧ e.hasCode .addressDoesNotExist = false := by
        cases answer with
        | ok v => cases hfailure
        | error e' =>
          cases he : e'.hasCode .addressDoesNotExist <;> simp [failureOf, he] at hfailure
          exact hfailure ▸ ⟨rfl, he⟩
      exact ⟨[_], rfl, .stopped hleft⟩

/-! ## Up to the first failure -/

/-- Calls that delete an address from replicas in their order, and an outcome that they explain:
success if no replica is left that has the address, else the failure of the last call, the first
that left the address there. -/
structure UpToFirstFailure (address : String) (targets : List ReplicaTarget)
    (calls : List CallRecord) (outcome : Except Failure Unit) : Prop where
  deletions : ∀ c ∈ calls, c.call = .deleteAddress address
  in_order : calls.map CallRecord.target <+: targets
  ok_iff : outcome = .ok () ↔
    calls.map CallRecord.target = targets ∧ ∀ c ∈ calls, addressGone c.answer = true
  failed : ∀ f, outcome = .error f → ∃ earlier last e, calls = earlier ++ [last] ∧
    (∀ c ∈ earlier, addressGone c.answer = true) ∧ last.answer = .error e ∧
      e.hasCode .addressDoesNotExist = false ∧ f = e.toFailure ∧
      (f.requeue = true ↔ e.isTransient = true)

theorem Deletions.upToFirstFailure {targets : List ReplicaTarget} {calls : List CallRecord}
    {outcome : Except Failure Unit} (hdeletions : Deletions address targets calls outcome) :
    UpToFirstFailure address targets calls outcome := by
  induction hdeletions with
  | done => exact ⟨nofun, List.nil_prefix, by simp, nofun⟩
  | @gone t rest answer calls outcome hgone hrest ih =>
    refine ⟨List.forall_mem_cons.mpr ⟨rfl, ih.deletions⟩,
      (List.cons_prefix_cons).mpr ⟨rfl, ih.in_order⟩, ?_, ?_⟩
    · simp [ih.ok_iff, hgone]
    · intro f hf
      obtain ⟨earlier, last, e, rfl, hearlier, hlast⟩ := ih.failed f hf
      exact ⟨_ :: earlier, last, e, rfl, List.forall_mem_cons.mpr ⟨hgone, hearlier⟩, hlast⟩
  | @stopped t rest e hleft =>
    refine ⟨List.forall_mem_singleton.mpr rfl, (List.cons_prefix_cons).mpr ⟨rfl, List.nil_prefix⟩,
      ?_, ?_⟩
    · simp [addressGone, hleft]
    · rintro f ⟨⟩
      exact ⟨[], _, e, rfl, nofun, rfl, hleft, rfl, by rw [e.requeue_toFailure]⟩

section Remove

variable {domain ns : String} {spec : AddressSpec} {s : σ} {found : ResolvedTargets}

/-- A replica that is not available keeps the address from being deleted anywhere. -/
theorem remove_of_unavailable (hqueue : spec.queue? = none)
    (hreplicas : Task.outcome h (replicas domain ns spec) s = .ok found) {r : UnavailableReplica}
    {rest : List UnavailableReplica} (hunavailable : found.unavailable = r :: rest) :
    callsIn (Task.transcript h (remove domain ns spec) s) = [] ∧
      Task.outcome h (remove domain ns spec) s =
        .error (.noManagementClient (r.fqdn ++ ": " ++ r.reason)) := by
  have hne : found.isEmpty = false := by simp [ResolvedTargets.isEmpty, hunavailable]
  have hpart : spec.queue?.elim (removeAddress spec found) (removeQueue spec · found) =
      throw (.noManagementClient (r.fqdn ++ ": " ++ r.reason)) := by
    rw [hqueue, Option.elim_none, removeAddress, hunavailable]
  obtain ⟨hasked, houtcome⟩ := remove_of_replicas hreplicas hne hpart
  rw [hasked, houtcome, Task.transcript_throw, List.append_nil, callsIn_replicas]
  exact ⟨rfl, rfl⟩

theorem remove_upToFirstFailure (hqueue : spec.queue? = none)
    (hreplicas : Task.outcome h (replicas domain ns spec) s = .ok found)
    (havailable : found.unavailable = []) :
    UpToFirstFailure spec.addressName found.targets
      (callsIn (Task.transcript h (remove domain ns spec) s))
      (Task.outcome h (remove domain ns spec) s) := by
  by_cases hempty : found.isEmpty = true
  · obtain ⟨houtcome, hasked⟩ := remove_of_isEmpty hreplicas hempty
    have hnone : found.targets = [] := by
      simp only [ResolvedTargets.isEmpty, Bool.and_eq_true, List.isEmpty_iff] at hempty
      exact hempty.1
    rw [houtcome, hasked, callsIn_replicas, hnone]
    exact Deletions.done.upToFirstFailure
  · have hpart : spec.queue?.elim (removeAddress spec found) (removeQueue spec · found) =
        deleteAddress spec.addressName found.targets := by
      rw [hqueue, Option.elim_none, removeAddress, havailable]
    obtain ⟨hasked, houtcome⟩ := remove_of_replicas hreplicas (by simpa using hempty) hpart
    obtain ⟨calls, hcalls, hdeletions⟩ := deletions_deleteAddress h spec.addressName found.targets
      (Task.after h (replicas domain ns spec) s)
    rw [hasked, houtcome, hcalls, callsIn_append, callsIn_replicas, callsIn_map_reply,
      List.nil_append]
    exact hdeletions.upToFirstFailure

end Remove

/-! ## Once more -/

/-- What removing a bare address may ask: to read, and to delete the address. -/
def Deleting (address : String) (r : Request) : Prop :=
  r.isRead = true ∨ ∃ t, r = .call t (.deleteAddress address)

theorem deleting_remove (domain ns : String) {spec : AddressSpec} (hqueue : spec.queue? = none) :
    (remove domain ns spec).run.Asks (Deleting spec.addressName) := by
  have hread : (replicas domain ns spec).run.Asks (Deleting spec.addressName) :=
    (ResolvedTargets.reading_resolve domain ns (.ofNames spec.applyToClusterNames)).asks.mono
      fun _ => .inl
  refine Task.asks_bind hread fun found => ?_
  split
  · trivial
  · simp only [hqueue, removeAddress]
    split
    · trivial
    · exact (asks_deleteAddress _ _).mono fun _ => Or.inr

/-- Brokers of which it is known whether they are without an address: one that is says so, one that
deleted the address is, and neither a reading nor the deletion of the address elsewhere brings it
back. -/
structure Truthful (h : Handler surroundings σ) (address : String) (missing : σ → String → Prop) :
    Prop where
  told : ∀ (t : ReplicaTarget) (s : σ), missing s t.fqdn → ∃ e : CallFailure,
    (h (.call t (.deleteAddress address)) s).1 = Except.error e ∧
    e.hasCode .addressDoesNotExist = true
  gone : ∀ (t : ReplicaTarget) (s : σ),
    addressGone (h (.call t (.deleteAddress address)) s).1 = true →
    missing (h (.call t (.deleteAddress address)) s).2 t.fqdn
  stays : ∀ r, Deleting address r → ∀ (s : σ) (fqdn : String), missing s fqdn →
    missing (h r s).2 fqdn

namespace Truthful

variable {missing : σ → String → Prop} {p : Course β}

/-- A deletion of a run was answered in a state on the way, where every replica is without the
address that was before the run; and every replica that is without it then is so after the run. -/
theorem answered_between (ht : Truthful h address missing) (hp : p.Asks (Deleting address)) {s : σ}
    {c : CallRecord} (hc : c ∈ callsIn (p.transcript h s)) :
    ∃ s₁, c.answer = (h (.call c.target (.deleteAddress address)) s₁).1 ∧
      ∀ fqdn, (missing s fqdn → missing s₁ fqdn) ∧
        (missing (h (.call c.target (.deleteAddress address)) s₁).2 fqdn →
          missing (p.run h s).2 fqdn) := by
  obtain ⟨⟨r, answer⟩, hreply, hcall⟩ := List.mem_filterMap.mp hc
  obtain ⟨s₁, hanswer, hway⟩ := hp.answered_between hreply
  rcases hp.transcript h s _ hreply with hread | ⟨t, htarget⟩
  · -- a reading is no call
    have hnoCall : r.isRead = false := by cases r <;> first | rfl | cases hcall
    exact absurd hread (by simp [hnoCall])
  · cases htarget
    cases hcall
    exact ⟨s₁, hanswer, fun fqdn => hway (missing · fqdn) fun r hr s => ht.stays r hr s fqdn⟩

/-- A replica that was found to be without the address in a run is without it after the run. -/
theorem missing_after (ht : Truthful h address missing) (hp : p.Asks (Deleting address)) {s : σ}
    {c : CallRecord} (hc : c ∈ callsIn (p.transcript h s)) (hgone : addressGone c.answer = true) :
    missing (p.run h s).2 c.target.fqdn := by
  obtain ⟨s₁, hanswer, hway⟩ := ht.answered_between hp hc
  exact (hway c.target.fqdn).2 (ht.gone c.target s₁ (hanswer ▸ hgone))

/-- A replica that is without the address before a run is found so in the run. -/
theorem gone_of_missing (ht : Truthful h address missing) (hp : p.Asks (Deleting address)) {s : σ}
    {c : CallRecord} (hc : c ∈ callsIn (p.transcript h s)) (hmissing : missing s c.target.fqdn) :
    addressGone c.answer = true := by
  obtain ⟨s₁, hanswer, hway⟩ := ht.answered_between hp hc
  obtain ⟨e, hrefused, hcode⟩ := ht.told c.target s₁ ((hway c.target.fqdn).1 hmissing)
  rw [hanswer, hrefused]
  exact hcode

end Truthful

/-- The calls of the removals that led to a state, one removal after the other. Between them
anything may happen but that a replica which is without the address gets it back. -/
inductive Removals (h : Handler surroundings σ) (domain ns : String) (spec : AddressSpec)
    (missing : σ → String → Prop) : List CallRecord → σ → Prop where
  | start (s : σ) : Removals h domain ns spec missing [] s
  | again {log : List CallRecord} {s s' : σ} (hbefore : Removals h domain ns spec missing log s)
      (hkept : ∀ fqdn, missing (Task.after h (remove domain ns spec) s) fqdn → missing s' fqdn) :
      Removals h domain ns spec missing
        (log ++ callsIn (Task.transcript h (remove domain ns spec) s)) s'

/-- A replica was cleaned: it answered that the address is deleted, or that it does not exist. -/
def Cleaned (log : List CallRecord) (fqdn : String) : Prop :=
  ∃ c ∈ log, c.target.fqdn = fqdn ∧ addressGone c.answer = true

section Repeated

variable {domain ns : String} {spec : AddressSpec} {missing : σ → String → Prop}
  {log : List CallRecord} {s : σ}

/-- However often the removal was tried, a replica that was cleaned is without the address. -/
theorem Removals.missing_of_cleaned (hlog : Removals h domain ns spec missing log s)
    (hqueue : spec.queue? = none) (ht : Truthful h spec.addressName missing) {fqdn : String}
    (hcleaned : Cleaned log fqdn) : missing s fqdn := by
  have hdeleting : (remove domain ns spec).run.Asks (Deleting spec.addressName) :=
    deleting_remove domain ns hqueue
  obtain ⟨c, hc, rfl, hgone⟩ := hcleaned
  induction hlog with
  | start s => cases hc
  | again hbefore hkept ih =>
    refine hkept _ ?_
    rcases List.mem_append.mp hc with hearlier | hnow
    · exact hdeleting.preserves (Q := fun s => missing s c.target.fqdn)
        (fun r hr s => ht.stays r hr s c.target.fqdn) (ih hearlier)
    · exact ht.missing_after hdeleting hnow hgone

variable {found : ResolvedTargets}

/-- Where the replicas are found, the removal of a bare address calls none of them if one is not
available; else it deletes the address at one after the other, up to the first that keeps it, whose
failure it reports. Brokers that are truthful report none at a replica that an earlier removal
cleaned, however often the removal is tried. -/
theorem bare_removal_outcome (hqueue : spec.queue? = none)
    (hreplicas : Task.outcome h (replicas domain ns spec) s = .ok found) :
    (∀ r rest, found.unavailable = r :: rest →
      callsIn (Task.transcript h (remove domain ns spec) s) = [] ∧
        Task.outcome h (remove domain ns spec) s =
          .error (.noManagementClient (r.fqdn ++ ": " ++ r.reason))) ∧
    (found.unavailable = [] →
      UpToFirstFailure spec.addressName found.targets
        (callsIn (Task.transcript h (remove domain ns spec) s))
        (Task.outcome h (remove domain ns spec) s)) ∧
    ∀ missing, Truthful h spec.addressName missing →
    ∀ log, Removals h domain ns spec missing log s →
      (∀ c ∈ callsIn (Task.transcript h (remove domain ns spec) s),
        Cleaned log c.target.fqdn → addressGone c.answer = true) ∧
      ∀ f, found.unavailable = [] → Task.outcome h (remove domain ns spec) s = .error f →
        ∃ c ∈ callsIn (Task.transcript h (remove domain ns spec) s), ∃ e, c.answer = .error e ∧
          f = e.toFailure ∧ ¬ Cleaned log c.target.fqdn := by
  refine ⟨fun r rest => remove_of_unavailable hqueue hreplicas,
    remove_upToFirstFailure hqueue hreplicas, ?_⟩
  intro missing ht log hlog
  have hgone : ∀ c ∈ callsIn (Task.transcript h (remove domain ns spec) s),
      Cleaned log c.target.fqdn → addressGone c.answer = true := fun c hc hcleaned =>
    ht.gone_of_missing (deleting_remove domain ns hqueue) hc
      (hlog.missing_of_cleaned hqueue ht hcleaned)
  refine ⟨hgone, fun f havailable hf => ?_⟩
  obtain ⟨earlier, last, e, hcalls, -, hanswer, hleft, hfailure, -⟩ :=
    (remove_upToFirstFailure hqueue hreplicas havailable).failed f hf
  have hlast : last ∈ callsIn (Task.transcript h (remove domain ns spec) s) := by simp [hcalls]
  refine ⟨last, hlast, e, hanswer, hfailure, fun hcleaned => ?_⟩
  have hcode : e.hasCode .addressDoesNotExist = true := by
    have hlastGone := hgone last hlast hcleaned
    rwa [hanswer] at hlastGone
  exact absurd hcode (by simp [hleft])

/-- Which replicas of a fleet are without an address, by their domain names, and one that cannot be
reached. -/
structure Brokers where
  missing : List String
  unreachable : Option String

namespace Brokers

/-- The deletion of the address at a domain name, as a truthful broker answers it. -/
def delete (fqdn : String) (s : Brokers) : CallResult × Brokers :=
  if fqdn ∈ s.missing then
    (.error ⟨"delete_address", .remote, "AMQ229203", some .addressDoesNotExist⟩, s)
  else if s.unreachable = some fqdn then
    (.error (.transport "delete_address" "connection refused"), s)
  else (.ok .null, { s with missing := fqdn :: s.missing })

/-- One cluster of two replicas with such brokers. -/
def fleet : Handler surroundings Brokers
  | .listClusters _, s =>
    (.ok [{ metadata := { name := some "broker", ns := some "ns" }, spec := {} }], s)
  | .getStatefulSet _, s => (.ok (some { spec := some { replicas := some 2 } }), s)
  | .getPod _, s => (.ok (some {}), s)
  | .getSecret _, s => (.ok none, s)
  | .call t _, s => s.delete t.fqdn
  | r, s => (r.refusal, s)

theorem truthful_fleet (address : String) :
    Truthful fleet address fun s fqdn => fqdn ∈ s.missing where
  told t s hmissing := by
    refine ⟨⟨"delete_address", .remote, "AMQ229203", some .addressDoesNotExist⟩, ?_, rfl⟩
    change (s.delete t.fqdn).1 = _
    rw [delete, if_pos hmissing]
  gone t s hgone := by
    change addressGone (s.delete t.fqdn).1 = true at hgone
    change t.fqdn ∈ (s.delete t.fqdn).2.missing
    by_cases hmissing : t.fqdn ∈ s.missing
    · simp [delete, hmissing]
    · by_cases hunreachable : s.unreachable = some t.fqdn
      · simp [delete, hmissing, hunreachable, addressGone, CallFailure.hasCode,
          CallFailure.transport] at hgone
      · simp [delete, hmissing, hunreachable]
  stays r _ s fqdn hmissing := by
    cases r with
    | call t c =>
      change fqdn ∈ (s.delete t.fqdn).2.missing
      unfold delete
      split
      · exact hmissing
      · split
        · exact hmissing
        · exact List.mem_cons_of_mem _ hmissing
    | _ => exact hmissing

/-- The second replica cannot be reached. -/
def cutOff : Brokers := ⟨[], some ((ClusterNames.ofName "broker").fqdn 1 "ns" "local")⟩

def bareAddress : AddressSpec := { addressName := "a" }

/-- What a removal leaves, with every replica within reach again. -/
def reachedAgain : Brokers :=
  { Task.after fleet (remove "local" "ns" bareAddress) cutOff with unreachable := none }

/-- The calls of the removal that failed at the second replica. -/
def failedCalls : List CallRecord :=
  callsIn (Task.transcript fleet (remove "local" "ns" bareAddress) cutOff)

end Brokers

open Brokers in
theorem bare_removal_outcome_reachedAgain :
    ∃ found, bareAddress.queue? = none ∧
      Task.outcome fleet (replicas "local" "ns" bareAddress) reachedAgain = .ok found ∧
      found.unavailable = [] ∧
      UpToFirstFailure "a" found.targets
        (callsIn (Task.transcript fleet (remove "local" "ns" bareAddress) reachedAgain))
        (Task.outcome fleet (remove "local" "ns" bareAddress) reachedAgain) ∧
      Truthful fleet "a" (fun s fqdn => fqdn ∈ s.missing) ∧
      Removals fleet "local" "ns" bareAddress (fun s fqdn => fqdn ∈ s.missing) failedCalls
        reachedAgain ∧
      Cleaned failedCalls ((ClusterNames.ofName "broker").fqdn 0 "ns" "local") ∧
      ∀ c ∈ callsIn (Task.transcript fleet (remove "local" "ns" bareAddress) reachedAgain),
        Cleaned failedCalls c.target.fqdn → addressGone c.answer = true := by
  have hlog : Removals fleet "local" "ns" bareAddress (fun s fqdn => fqdn ∈ s.missing) failedCalls
      reachedAgain :=
    .again (.start cutOff) fun _ hmissing => hmissing
  have hreplicas : ∃ found, Task.outcome fleet (replicas "local" "ns" bareAddress) reachedAgain =
      .ok found ∧
    found.unavailable = [] := ⟨_, rfl, rfl⟩
  obtain ⟨found, hfound, havailable⟩ := hreplicas
  have hqueue : bareAddress.queue? = none := rfl
  have houtcome := bare_removal_outcome hqueue hfound
  refine ⟨found, hqueue, hfound, havailable, houtcome.2.1 havailable, truthful_fleet "a", hlog, ?_,
    (houtcome.2.2 _ (truthful_fleet "a") _ hlog).1⟩
  exact ⟨_, List.mem_cons_self, rfl, rfl⟩

end Repeated

end AddressSync

end BrokerFleet
