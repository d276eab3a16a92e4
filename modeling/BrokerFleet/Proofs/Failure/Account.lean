import BrokerFleet.Proofs.Address.FanOut

/-! # What a batch failure accounts for

A batch failure that was made step by step lists the targets of its steps, each with its reasons in
the order in which they came. The steps at one target and those at another do not see each other, so
it does not matter how they are interleaved. -/

namespace BrokerFleet.BatchFailure

variable {xs ys : List BatchStep}

/-! ## The reasons at a target -/

/-- Reasons that are joined one by one stand in a row, a comma between any two. -/
theorem foldl_joinReason (reasons : List String) (first : String) :
    reasons.foldl joinReason (some first) = some (", ".intercalate (first :: reasons)) := by
  induction reasons generalizing first with
  | nil => simp
  | cons reason rest ih =>
    rw [List.foldl_cons, joinReason, Option.elim_some, ih, String.intercalate_cons_append,
      String.intercalate_cons_cons]

theorem get?_takeAll_fresh (cause : String) {steps : List BatchStep} {target : String}
    (hreasons : reasonsAt target steps ≠ []) :
    (({ cause } : BatchFailure).takeAll steps).detail.get? target =
      some (", ".intercalate (reasonsAt target steps)) := by
  obtain ⟨first, rest, hsteps⟩ := List.exists_cons_of_ne_nil hreasons
  rw [get?_takeAll, hsteps]
  exact foldl_joinReason rest first

theorem reasonsAt_ne_nil {steps : List BatchStep} {x : BatchStep} (hx : x ∈ steps) :
    reasonsAt x.target steps ≠ [] :=
  List.ne_nil_of_mem (List.mem_map.mpr ⟨x, by simpa using hx, rfl⟩)

/-! ## Interleavings -/

/-- The steps at a target, in their order. -/
def stepsAt (target : String) (steps : List BatchStep) : List BatchStep :=
  steps.filter fun x => x.target = target

/-- Two ways to interleave the same steps: every target gets its steps in one order. -/
def Interleaved (xs ys : List BatchStep) : Prop := ∀ target, stepsAt target xs = stepsAt target ys

/-- Neighbouring steps at two targets may change places. -/
theorem interleaved_swap (before after : List BatchStep) {x y : BatchStep}
    (hne : x.target ≠ y.target) :
    Interleaved (before ++ x :: y :: after) (before ++ y :: x :: after) := by
  intro target
  by_cases hx : x.target = target
  · have hy : y.target ≠ target := fun hy => hne (hx.trans hy.symm)
    simp [stepsAt, hx, hy]
  · simp [stepsAt, List.filter_cons, hx]

theorem Interleaved.mem (h : Interleaved xs ys) {x : BatchStep} (hx : x ∈ xs) : x ∈ ys := by
  have hat : x ∈ stepsAt x.target xs := by simpa [stepsAt] using hx
  rw [h] at hat
  exact (List.mem_filter.mp hat).1

theorem Interleaved.symm (h : Interleaved xs ys) : Interleaved ys xs :=
  fun target => (h target).symm

theorem Interleaved.any_eq (h : Interleaved xs ys) (p : BatchStep → Bool) :
    xs.any p = ys.any p := by
  rw [Bool.eq_iff_iff, List.any_eq_true, List.any_eq_true]
  exact ⟨fun ⟨x, hx, hp⟩ => ⟨x, h.mem hx, hp⟩, fun ⟨x, hx, hp⟩ => ⟨x, h.symm.mem hx, hp⟩⟩

theorem cause_takeAll (f : BatchFailure) (steps : List BatchStep) :
    (f.takeAll steps).cause = f.cause := by
  induction steps generalizing f with
  | nil => rfl
  | cons x rest ih =>
    have hcause : (f.take x).cause = f.cause := by
      unfold take
      split <;> rfl
    rw [takeAll, List.foldl_cons, ← takeAll, ih, hcause]

/-- A batch failure is told by its cause, what stands at each target and whether to try again. -/
theorem eq_of_get?_eq {f g : BatchFailure} (hcause : f.cause = g.cause)
    (hdetail : ∀ target, f.detail.get? target = g.detail.get? target)
    (htransient : f.transient = g.transient) :
    f = g := by
  cases f
  cases g
  cases hcause
  cases htransient
  cases Dict.eq_of_get?_eq hdetail
  rfl

theorem takeAll_interleaved (f : BatchFailure) (h : Interleaved xs ys) :
    f.takeAll xs = f.takeAll ys := by
  refine eq_of_get?_eq ?_ (fun target => ?_) ?_
  · rw [cause_takeAll, cause_takeAll]
  · have hreasons : reasonsAt target xs = reasonsAt target ys :=
      congrArg (List.map BatchStep.reason) (h target)
    rw [get?_takeAll, get?_takeAll, hreasons]
  · rw [transient_takeAll, transient_takeAll, h.any_eq]

/-! ## The whole account -/

/-- A batch failure lists the targets of its steps, each with its reasons in their order; it asks
for another try exactly if some step does, and it is no failure exactly if there was no step. How
steps at different targets are interleaved changes nothing. -/
theorem takeAll_accounts (cause : String) (steps : List BatchStep) :
    let f := ({ cause } : BatchFailure).takeAll steps
    (∀ target, target ∈ f.detail.keys ↔ ∃ x ∈ steps, x.target = target) ∧
      (∀ x ∈ steps, f.detail.get? x.target = some (", ".intercalate (reasonsAt x.target steps))) ∧
      (f.requeue = true ↔ ∃ x ∈ steps, x.transient = true) ∧
      (∀ {σ : Type} (h : Handler surroundings σ) (s : σ),
        Task.outcome h (AddressSync.conclude f) s = if steps = [] then .ok ()
          else .error (.batch f)) ∧
      ∀ others, Interleaved steps others → ({ cause } : BatchFailure).takeAll others = f := by
  intro f
  refine ⟨mem_keys_takeAll cause steps,
    fun x hx => get?_takeAll_fresh cause (reasonsAt_ne_nil hx), ?_, fun h s => ?_,
    fun others h => (takeAll_interleaved _ h).symm⟩
  · rw [requeue, transient_takeAll, Bool.false_or, List.any_eq_true]
  · rw [AddressSync.outcome_conclude, AddressSync.outcomeOf]
    simp only [f, isEmpty_takeAll]

/-- Two reasons at one target, one of them empty, around a passing one at another. -/
theorem takeAll_accounts_interleaved :
    let a : BatchStep := ⟨"a", "", false⟩
    let b : BatchStep := ⟨"b", "gone", true⟩
    let a' : BatchStep := ⟨"a", "refused", false⟩
    let f := ({ cause := "apply" } : BatchFailure).takeAll [a, b, a']
    a ∈ [a, b, a'] ∧ f.detail.get? "a" = some ", refused" ∧ f.requeue = true ∧
      Interleaved [a, b, a'] [b, a, a'] ∧
      ({ cause := "apply" } : BatchFailure).takeAll [b, a, a'] = f := by
  intro a b a' f
  obtain ⟨-, hreasons, hrequeue, -, hothers⟩ := takeAll_accounts "apply" [a, b, a']
  have ha : a ∈ [a, b, a'] := List.mem_cons_self
  have hswap : Interleaved [a, b, a'] [b, a, a'] := interleaved_swap [] [a'] (by decide)
  exact ⟨ha, hreasons a ha, hrequeue.mpr ⟨b, by simp, rfl⟩, hswap, hothers _ hswap⟩

end BrokerFleet.BatchFailure
