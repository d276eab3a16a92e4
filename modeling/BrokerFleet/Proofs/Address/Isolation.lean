import BrokerFleet.Proofs.Address.Outcome
import BrokerFleet.Proofs.Address.Requests

/-! # One replica among others

A replica is told apart by its domain name. Surroundings that behave alike as far as one replica can
tell lead to the same calls to that replica and to the same entry in the failure detail: how the
other replicas behave makes no difference to it. -/

namespace BrokerFleet

/-- Two behaviours of the surroundings that agree at a domain name, by a relation between their
states: everything but the calls to other replicas is answered alike, and calls to other replicas
change nothing that matters. -/
structure AgreeAt {σ₁ σ₂ : Type} (fqdn : String) (h₁ : Handler surroundings σ₁)
    (h₂ : Handler surroundings σ₂) (R : σ₁ → σ₂ → Prop) : Prop where
  alike : ∀ r : Request, (∀ t c, r = .call t c → t.fqdn = fqdn) → ∀ s₁ s₂, R s₁ s₂ →
    (h₁ r s₁).1 = (h₂ r s₂).1 ∧ R (h₁ r s₁).2 (h₂ r s₂).2
  left : ∀ t c, t.fqdn ≠ fqdn → ∀ s₁ s₂, R s₁ s₂ → R (h₁ (.call t c) s₁).2 s₂
  right : ∀ t c, t.fqdn ≠ fqdn → ∀ s₁ s₂, R s₁ s₂ → R s₁ (h₂ (.call t c) s₂).2

/-- The calls to a domain name, in order. -/
def callsAt (fqdn : String) (log : List surroundings.Reply) : List CallRecord :=
  (callsIn log).filter fun c => c.target.fqdn = fqdn

@[simp] theorem callsAt_append (fqdn : String) (xs ys : List surroundings.Reply) :
    callsAt fqdn (xs ++ ys) = callsAt fqdn xs ++ callsAt fqdn ys := by
  simp [callsAt]

/-! ## Lists that are alike at some items -/

/-- Two lists with the same items in the same order, as far as a property of the items goes. -/
inductive SameAt {α : Type} (p : α → Bool) : List α → List α → Prop where
  | nil : SameAt p [] []
  | left {a : α} {l₁ l₂ : List α} (ha : p a = false) (h : SameAt p l₁ l₂) : SameAt p (a :: l₁) l₂
  | right {a : α} {l₁ l₂ : List α} (ha : p a = false) (h : SameAt p l₁ l₂) : SameAt p l₁ (a :: l₂)
  | both {a : α} {l₁ l₂ : List α} (ha : p a = true) (h : SameAt p l₁ l₂) :
      SameAt p (a :: l₁) (a :: l₂)

theorem SameAt.of_filter_eq {α : Type} {p : α → Bool} {l₁ l₂ : List α}
    (h : l₁.filter p = l₂.filter p) : SameAt p l₁ l₂ := by
  -- the first list is walked first; the second only to drop items up to the next one in common
  induction l₁ generalizing l₂ with
  | nil =>
    induction l₂ with
    | nil => exact .nil
    | cons b rest ih =>
      have hrest := List.filter_eq_nil_iff.mp h.symm
      refine .right (by simpa using hrest b) (ih ?_)
      simpa using fun a ha => hrest a (List.mem_cons_of_mem _ ha)
  | cons a rest₁ ih₁ =>
    cases ha : p a with
    | false => exact .left ha (ih₁ (by simpa [ha] using h))
    | true =>
      induction l₂ with
      | nil => simp [ha] at h
      | cons b rest₂ ih₂ =>
        cases hb : p b with
        | false => exact .right hb (ih₂ (by simpa [hb] using h))
        | true =>
          simp only [List.filter_cons, ha, hb, if_true, List.cons.injEq] at h
          obtain ⟨rfl, hrest⟩ := h
          exact .both ha (ih₁ hrest)

namespace AddressSync

variable {σ σ₁ σ₂ : Type} {fqdn : String}

/-! ## Steps that stay at their replica -/

theorem callsAt_of_local {step : Step} (hstep : Local step) (h : Handler surroundings σ)
    {t : ReplicaTarget} (ht : t.fqdn ≠ fqdn) (s : σ) :
    callsAt fqdn ((step t).transcript h s) = [] := by
  rw [callsAt, List.filter_eq_nil_iff]
  intro c hc
  obtain ⟨⟨r, a⟩, hx, hcall⟩ := List.mem_filterMap.mp hc
  obtain ⟨call, rfl⟩ : ∃ call, r = .call t call := (hstep t).transcript h s _ hx
  cases hcall
  simpa using ht

theorem transcript_runStep_cons (h : Handler surroundings σ) (step : Step) (t : ReplicaTarget)
    (rest : List ReplicaTarget) (s : σ) :
    (runStep step (t :: rest)).transcript h s =
      (step t).transcript h s ++ (runStep step rest).transcript h ((step t).run h s).2 := by
  simp [runStep, Program.each, Program.transcript_bind]

theorem run_runStep_cons (h : Handler surroundings σ) (step : Step) (t : ReplicaTarget)
    (rest : List ReplicaTarget) (s : σ) :
    (runStep step (t :: rest)).run h s =
      ((t, ((step t).run h s).1) :: ((runStep step rest).run h ((step t).run h s).2).1,
        ((runStep step rest).run h ((step t).run h s).2).2) := by
  simp [runStep, Program.each, Program.run_bind]

theorem filter_succeeded (outcomes : Outcomes) :
    (succeeded outcomes).filter (fun t => t.fqdn = fqdn) =
      succeeded (outcomes.filter fun o => o.1.fqdn = fqdn) := by
  induction outcomes with
  | nil => rfl
  | cons o rest ih =>
    obtain ⟨t, _ | e⟩ := o <;> by_cases ht : t.fqdn = fqdn <;> simpa [succeeded, ht] using ih

theorem reasonsAt_batchSteps (outcomes : Outcomes) :
    BatchFailure.reasonsAt fqdn (batchSteps (outcomes.filterMap fun o => o.2.map (o.1, ·))) =
      ((outcomes.filter fun o => o.1.fqdn = fqdn).filterMap Prod.snd).map CallFailure.message := by
  induction outcomes with
  | nil => rfl
  | cons o rest ih =>
    unfold batchSteps BatchFailure.reasonsAt at ih ⊢
    obtain ⟨t, _ | e⟩ := o <;> by_cases ht : t.fqdn = fqdn <;> simpa [ht] using ih

/-! ## Agreement, step by step -/

section Agree

variable {h₁ : Handler surroundings σ₁} {h₂ : Handler surroundings σ₂} {R : σ₁ → σ₂ → Prop}
  (hagree : AgreeAt fqdn h₁ h₂ R)

include hagree

/-- A step taken on lists that are alike at the domain name looks alike there. -/
theorem runStep_agree {step : Step} (hstep : Local step) {l₁ l₂ : List ReplicaTarget}
    (hl : SameAt (fun t => t.fqdn = fqdn) l₁ l₂) {s₁ : σ₁} {s₂ : σ₂} (hs : R s₁ s₂) :
    callsAt fqdn ((runStep step l₁).transcript h₁ s₁) =
        callsAt fqdn ((runStep step l₂).transcript h₂ s₂) ∧
      ((runStep step l₁).run h₁ s₁).1.filter (fun o => o.1.fqdn = fqdn) =
        ((runStep step l₂).run h₂ s₂).1.filter (fun o => o.1.fqdn = fqdn) ∧
      R ((runStep step l₁).run h₁ s₁).2 ((runStep step l₂).run h₂ s₂).2 := by
  induction hl generalizing s₁ s₂ with
  | nil => exact ⟨rfl, rfl, hs⟩
  -- a target elsewhere moves one run alone: the relation holds on, and nothing is seen at the name
  | @left t l₁ l₂ ht _ ih =>
    have ht : t.fqdn ≠ fqdn := by simpa using ht
    have hnext : R ((step t).run h₁ s₁).2 s₂ :=
      (hstep t).preserves (Q := fun s => R s s₂)
        (by rintro _ ⟨c, rfl⟩ s hs; exact hagree.left t c ht s s₂ hs) hs
    simpa [transcript_runStep_cons, run_runStep_cons, callsAt_of_local hstep h₁ ht, ht]
      using ih hnext
  | @right t l₁ l₂ ht _ ih =>
    have ht : t.fqdn ≠ fqdn := by simpa using ht
    have hnext : R s₁ ((step t).run h₂ s₂).2 :=
      (hstep t).preserves (Q := fun s => R s₁ s)
        (by rintro _ ⟨c, rfl⟩ s hs; exact hagree.right t c ht s₁ s hs) hs
    simpa [transcript_runStep_cons, run_runStep_cons, callsAt_of_local hstep h₂ ht, ht]
      using ih hnext
  | @both t l₁ l₂ ht _ ih =>
    have ht : t.fqdn = fqdn := by simpa using ht
    obtain ⟨hvalue, hasked, hnext⟩ := (hstep t).run_congr h₁ h₂ R
      (by
        rintro _ ⟨c, rfl⟩
        exact hagree.alike _ (by rintro t' _ ⟨⟩; exact ht)) hs
    obtain ⟨hcalls, houtcomes, hlast⟩ := ih hnext
    simp [transcript_runStep_cons, run_runStep_cons, hvalue, hasked, hcalls, ht, houtcomes, hlast]

theorem ensureOn_agree (spec : AddressSpec) (found : ResolvedTargets) {s₁ : σ₁} {s₂ : σ₂}
    (hs : R s₁ s₂) :
    callsAt fqdn ((ensureOn spec found).transcript h₁ s₁) =
        callsAt fqdn ((ensureOn spec found).transcript h₂ s₂) ∧
      ((ensureOn spec found).run h₁ s₁).1.detail.get? fqdn =
        ((ensureOn spec found).run h₂ s₂).1.detail.get? fqdn := by
  have htargets : SameAt (fun t => t.fqdn = fqdn) found.targets found.targets := .of_filter_eq rfl
  obtain ⟨hcalls, haddressed, hnext⟩ :=
    runStep_agree hagree (local_ensureAddress spec) htargets hs
  cases hpayload : QueuePayload.ofSpec? spec with
  | none =>
    simp only [ensureOn, hpayload, Program.transcript_bind, Program.run_bind, hcalls,
      Program.pure_def, Program.done_bind, Program.transcript_done, Program.run_done,
      List.append_nil, foldl_addFailure_eq, BatchFailure.get?_takeAll, reasonsAt_batchSteps,
      haddressed, and_self]
  | some p =>
    -- the two runs may accept different targets, but not at this domain name
    have hsucceeded :
        SameAt (fun t => t.fqdn = fqdn)
          (succeeded ((runStep (ensureAddress spec) found.targets).run h₁ s₁).1)
          (succeeded ((runStep (ensureAddress spec) found.targets).run h₂ s₂).1) :=
      .of_filter_eq (by rw [filter_succeeded, haddressed, filter_succeeded])
    obtain ⟨hcalls', hqueued, -⟩ := runStep_agree hagree (local_ensureQueue p) hsucceeded hnext
    simp only [ensureOn, hpayload, Program.transcript_bind, Program.run_bind,
      callsAt_append, hcalls, hcalls', Program.pure_def, Program.transcript_done, Program.run_done,
      foldl_addFailure_eq, BatchFailure.get?_takeAll, reasonsAt_batchSteps, List.filter_append,
      haddressed, hqueued, and_self]

/-- Finding replicas looks the same to all behaviours that agree anywhere. -/
theorem replicas_agree (domain ns : String) (spec : AddressSpec) {s₁ : σ₁} {s₂ : σ₂}
    (hs : R s₁ s₂) :
    Task.outcome h₁ (replicas domain ns spec) s₁ = Task.outcome h₂ (replicas domain ns spec) s₂ ∧
      R (Task.after h₁ (replicas domain ns spec) s₁)
        (Task.after h₂ (replicas domain ns spec) s₂) := by
  obtain ⟨hvalue, -, hnext⟩ := (ResolvedTargets.reading_resolve domain ns
    (.ofNames spec.applyToClusterNames)).asks.run_congr h₁ h₂ R
    (fun r hr => hagree.alike r (by rintro t c rfl; cases hr)) hs
  exact ⟨hvalue, hnext⟩

end Agree

/-! ## The calls of a whole run -/

/-- The entry of an outcome's failure detail at a domain name. -/
def entryAt (fqdn : String) : Except Failure Unit → Option String
  | .error (.batch b) => b.detail.get? fqdn
  | _ => none

theorem entryAt_outcomeOf (b : BatchFailure) : entryAt fqdn (outcomeOf b) = b.detail.get? fqdn := by
  unfold outcomeOf
  by_cases hb : b.isEmpty = true
  · rw [if_pos hb, Dict.isEmpty_iff.mp hb fqdn]
    rfl
  · rw [if_neg hb]
    rfl

theorem callsAt_replicas (h : Handler surroundings σ) (domain ns : String) (spec : AddressSpec)
    (s : σ) : callsAt fqdn (Task.transcript h (replicas domain ns spec) s) = [] := by
  simp [callsAt]

/-- Readings come first; if one of them failed, no call follows, and else those of a fan-out do. -/
theorem ensure_transcript (h : Handler surroundings σ) (domain ns : String) (spec : AddressSpec)
    (s : σ) : ∃ calls : List CallRecord,
      Task.transcript h (ensure domain ns spec) s =
        Task.transcript h (replicas domain ns spec) s ++ calls.map CallRecord.reply ∧
      ((∃ x ∈ Task.transcript h (replicas domain ns spec) s, readFailed x) → calls = []) ∧
      ((∀ x ∈ Task.transcript h (replicas domain ns spec) s, ¬ readFailed x) →
        ∃ found, Task.outcome h (replicas domain ns spec) s = .ok found ∧
          ∃ f : FanOut, f.Obeys spec found.targets ∧ calls = f.calls spec) := by
  have hfailed : (∃ e, Task.outcome h (replicas domain ns spec) s = .error e) ↔
      ∃ x ∈ Task.transcript h (replicas domain ns spec) s, readFailed x :=
    (ResolvedTargets.reading_resolve domain ns (.ofNames spec.applyToClusterNames)).error_iff h s
  cases hfound : Task.outcome h (replicas domain ns spec) s with
  | error e =>
    obtain ⟨x, hx, hread⟩ := hfailed.mp ⟨e, hfound⟩
    refine ⟨[], by simp [ensure_of_error hfound], fun _ => rfl, fun hnone => ?_⟩
    exact absurd hread (hnone x hx)
  | ok found =>
    have hnone : ¬ ∃ x ∈ Task.transcript h (replicas domain ns spec) s, readFailed x := by
      rw [← hfailed]
      simp [hfound]
    by_cases hempty : found.isEmpty = true
    · have htargets : found.targets = [] := by simp_all [ResolvedTargets.isEmpty]
      refine ⟨[], by simp [ensure_of_isEmpty hfound hempty], fun _ => rfl, fun _ => ?_⟩
      refine ⟨found, rfl, ⟨QueuePayload.ofSpec? spec, [], []⟩, ⟨QueuePayload.asked_ofSpec? spec,
        by simp [htargets], by simp [FanOut.accepted], by simp⟩, ?_⟩
      cases QueuePayload.ofSpec? spec <;> simp [FanOut.calls]
    · obtain ⟨f, hf, hasked, -⟩ := ensure_fanOut hfound (by simpa using hempty)
      exact ⟨f.calls spec, hasked, fun hread => absurd hread hnone,
        fun _ => ⟨found, rfl, f, hf, rfl⟩⟩

theorem ensure_agree {h₁ : Handler surroundings σ₁} {h₂ : Handler surroundings σ₂}
    {R : σ₁ → σ₂ → Prop} (hagree : AgreeAt fqdn h₁ h₂ R) (domain ns : String) (spec : AddressSpec)
    {s₁ : σ₁} {s₂ : σ₂} (hs : R s₁ s₂) :
    callsAt fqdn (Task.transcript h₁ (ensure domain ns spec) s₁) =
        callsAt fqdn (Task.transcript h₂ (ensure domain ns spec) s₂) ∧
      entryAt fqdn (Task.outcome h₁ (ensure domain ns spec) s₁) =
        entryAt fqdn (Task.outcome h₂ (ensure domain ns spec) s₂) := by
  obtain ⟨hvalue, hnext⟩ := replicas_agree hagree domain ns spec hs
  cases hfound₁ : Task.outcome h₁ (replicas domain ns spec) s₁ with
  | error e =>
    have hfound₂ := hvalue ▸ hfound₁
    simp [ensure_of_error hfound₁, ensure_of_error hfound₂, callsAt]
  | ok found =>
    have hfound₂ := hvalue ▸ hfound₁
    by_cases hempty : found.isEmpty = true
    · obtain ⟨⟨_, houtcome₁⟩, hasked₁⟩ := ensure_of_isEmpty hfound₁ hempty
      obtain ⟨⟨_, houtcome₂⟩, hasked₂⟩ := ensure_of_isEmpty hfound₂ hempty
      simp [houtcome₁, houtcome₂, hasked₁, hasked₂, callsAt, entryAt]
    · have hne : found.isEmpty = false := by simpa using hempty
      obtain ⟨hasked₁, houtcome₁⟩ := ensure_of_replicas hfound₁ hne
      obtain ⟨hasked₂, houtcome₂⟩ := ensure_of_replicas hfound₂ hne
      obtain ⟨hcalls, hentry⟩ := ensureOn_agree hagree spec found hnext
      rw [houtcome₁, houtcome₂, entryAt_outcomeOf, entryAt_outcomeOf, hasked₁, hasked₂,
        callsAt_append, callsAt_append]
      exact ⟨by rw [callsAt_replicas, callsAt_replicas, hcalls], hentry⟩

/-- The calls of bringing an address to its replicas are those of a fan-out that obeys, or none if a
reading failed; and what a replica is called for and reported with depends on no other replica. -/
theorem ensure_calls (h : Handler surroundings σ) (domain ns : String) (spec : AddressSpec)
    (s : σ) :
    ((∃ x ∈ Task.transcript h (replicas domain ns spec) s, readFailed x) →
      callsIn (Task.transcript h (ensure domain ns spec) s) = []) ∧
    ((∀ x ∈ Task.transcript h (replicas domain ns spec) s, ¬ readFailed x) →
      ∃ found, Task.outcome h (replicas domain ns spec) s = .ok found ∧
        ∃ f : FanOut, f.Obeys spec found.targets ∧
          callsIn (Task.transcript h (ensure domain ns spec) s) = f.calls spec) ∧
    ∀ (τ : Type) (h' : Handler surroundings τ) (R : σ → τ → Prop) (s' : τ) (fqdn : String),
      AgreeAt fqdn h h' R → R s s' →
        callsAt fqdn (Task.transcript h (ensure domain ns spec) s) =
            callsAt fqdn (Task.transcript h' (ensure domain ns spec) s') ∧
          entryAt fqdn (Task.outcome h (ensure domain ns spec) s) =
            entryAt fqdn (Task.outcome h' (ensure domain ns spec) s') := by
  obtain ⟨calls, hasked, hfailed, hread⟩ := ensure_transcript h domain ns spec s
  have hcalls : callsIn (Task.transcript h (ensure domain ns spec) s) = calls := by
    rw [hasked, callsIn_append, callsIn_replicas, callsIn_map_reply, List.nil_append]
  rw [hcalls]
  exact ⟨hfailed, hread, fun _ _ _ _ _ hagree hs => ensure_agree hagree domain ns spec hs⟩

theorem agreeAt_oneCluster {a₁ a₂ : ReplicaTarget → Call → CallResult}
    (h : ∀ t c, t.fqdn = fqdn → a₁ t c = a₂ t c) :
    AgreeAt fqdn (oneCluster a₁) (oneCluster a₂) Eq where
  alike r hr s₁ s₂ hs := by
    subst hs
    cases r
    case call t c => exact ⟨h t c (hr t c rfl), rfl⟩
    all_goals exact ⟨rfl, rfl⟩
  left _ _ _ _ _ hs := hs
  right _ _ _ _ _ hs := hs

/-- Surroundings in which nothing can be read. -/
def unreadable : Handler surroundings Unit := fun r s => (r.refusal, s)

/-- Where nothing can be read nothing is called; in a cluster with one replica within reach that
replica is called as if the others were within reach too. -/
theorem ensure_calls_oneCluster :
    let near := oneCluster (holdingAt firstReplica)
    let all := oneCluster fun t => holdingAt t.fqdn t
    ((∃ x ∈ Task.transcript unreadable (replicas "local" "ns" oneQueueSpec) (), readFailed x) ∧
        callsIn (Task.transcript unreadable (ensure "local" "ns" oneQueueSpec) ()) = []) ∧
      ((∀ x ∈ Task.transcript near (replicas "local" "ns" oneQueueSpec) 0, ¬ readFailed x) ∧
        ∃ found, Task.outcome near (replicas "local" "ns" oneQueueSpec) 0 = .ok found ∧
          ∃ f : FanOut, f.Obeys oneQueueSpec found.targets ∧ f.payload.isSome ∧
            (f.calls oneQueueSpec).length = 4 ∧
            callsIn (Task.transcript near (ensure "local" "ns" oneQueueSpec) 0) =
              f.calls oneQueueSpec) ∧
      callsAt firstReplica (Task.transcript near (ensure "local" "ns" oneQueueSpec) 0) =
        callsAt firstReplica (Task.transcript all (ensure "local" "ns" oneQueueSpec) 0) ∧
      entryAt firstReplica (Task.outcome near (ensure "local" "ns" oneQueueSpec) 0) =
        entryAt firstReplica (Task.outcome all (ensure "local" "ns" oneQueueSpec) 0) := by
  intro near all
  have hunread : ∃ x ∈ Task.transcript unreadable (replicas "local" "ns" oneQueueSpec) (),
      readFailed x := by decide
  have hread : ∀ x ∈ Task.transcript near (replicas "local" "ns" oneQueueSpec) 0,
      ¬ readFailed x := by
    decide
  have hagree : AgreeAt firstReplica near all Eq :=
    agreeAt_oneCluster fun t c ht => by simp [holdingAt, ht]
  obtain ⟨hnone, -, -⟩ := ensure_calls unreadable "local" "ns" oneQueueSpec ()
  obtain ⟨-, hcalled, halike⟩ := ensure_calls near "local" "ns" oneQueueSpec 0
  obtain ⟨found, hfound, f, hf, hcalls⟩ := hcalled hread
  have hqueued : f.payload.isSome := hf.asked.isSome_iff.mpr ⟨"q", rfl, by decide⟩
  exact ⟨⟨hunread, hnone hunread⟩, ⟨hread, found, hfound, f, hf, hqueued,
    hcalls ▸ length_callsIn_holdingAt, hcalls⟩,
    halike Nat all Eq 0 firstReplica hagree rfl⟩

end AddressSync

end BrokerFleet
