import BrokerFleet.Failure
import BrokerFleet.Proofs.Dict.Lookup

/-! # Collected failures

A batch failure is the outcome of its steps: what stands at a target depends on the steps at that
target alone, and on their order. -/

namespace BrokerFleet

open Dict

/-- A reason to add at a target. -/
structure BatchStep where
  target : String
  reason : String
  /-- Whether the reason is expected to pass. -/
  transient : Bool
  deriving DecidableEq, Repr

namespace BatchFailure

def take (f : BatchFailure) (x : BatchStep) : BatchFailure :=
  if x.transient then f.addTransient x.target x.reason else f.add x.target x.reason

def takeAll (f : BatchFailure) (steps : List BatchStep) : BatchFailure := steps.foldl take f

/-- A text with a further reason, after a comma if there is a text already. -/
def joinReason (text : Option String) (reason : String) : Option String :=
  some (text.elim reason fun earlier => earlier ++ ", " ++ reason)

def reasonsAt (target : String) (steps : List BatchStep) : List String :=
  (steps.filter fun x => x.target = target).map BatchStep.reason

theorem takeAll_append (f : BatchFailure) (xs ys : List BatchStep) :
    f.takeAll (xs ++ ys) = (f.takeAll xs).takeAll ys := List.foldl_append

theorem detail_take (f : BatchFailure) (x : BatchStep) :
    (f.take x).detail = (f.add x.target x.reason).detail := by
  unfold take
  split <;> rfl

theorem transient_take (f : BatchFailure) (x : BatchStep) :
    (f.take x).transient = (f.transient || x.transient) := by
  unfold take
  split
  · next h => simp [addTransient, h]
  · next h => simp [add, h]

theorem get?_add_self (f : BatchFailure) (target reason : String) :
    (f.add target reason).detail.get? target = joinReason (f.detail.get? target) reason := by
  simp only [add, get?_insert_self, joinReason]
  cases f.detail.get? target <;> rfl

theorem get?_add_of_ne (f : BatchFailure) {target other : String} (reason : String)
    (h : other ≠ target) : (f.add target reason).detail.get? other = f.detail.get? other :=
  get?_insert_of_ne _ _ h

/-- What stands at a target is made of the reasons there, in their order. -/
theorem get?_takeAll (f : BatchFailure) (steps : List BatchStep) (target : String) :
    (f.takeAll steps).detail.get? target =
      (reasonsAt target steps).foldl joinReason (f.detail.get? target) := by
  induction steps generalizing f with
  | nil => rfl
  | cons x rest ih =>
    rw [takeAll, List.foldl_cons, ← takeAll, ih, detail_take]
    by_cases h : x.target = target
    · subst h
      simp [reasonsAt, get?_add_self]
    · simp [reasonsAt, h, get?_add_of_ne f x.reason (Ne.symm h)]

theorem transient_takeAll (f : BatchFailure) (steps : List BatchStep) :
    (f.takeAll steps).transient = (f.transient || steps.any BatchStep.transient) := by
  induction steps generalizing f with
  | nil => simp [takeAll]
  | cons x rest ih =>
    rw [takeAll, List.foldl_cons, ← takeAll, ih, transient_take, List.any_cons, Bool.or_assoc]

theorem isSome_foldl_joinReason (reasons : List String) (text : Option String) :
    (reasons.foldl joinReason text).isSome ↔ text.isSome ∨ reasons ≠ [] := by
  induction reasons generalizing text with
  | nil => simp
  | cons reason rest ih => simp [ih, joinReason]

/-- The targets of a batch failure are those of its steps. -/
theorem mem_keys_takeAll (cause : String) (steps : List BatchStep) (target : String) :
    target ∈ (({ cause } : BatchFailure).takeAll steps).detail.keys ↔
      ∃ x ∈ steps, x.target = target := by
  rw [mem_keys_iff, get?_takeAll, isSome_foldl_joinReason]
  simp [reasonsAt]

/-- Without steps nothing failed, and with any something did. -/
theorem isEmpty_takeAll (cause : String) (steps : List BatchStep) :
    (({ cause } : BatchFailure).takeAll steps).isEmpty ↔ steps = [] := by
  constructor
  · intro h
    rw [List.eq_nil_iff_forall_not_mem]
    intro x hx
    have hkey := (mem_keys_takeAll cause steps x.target).mpr ⟨x, hx, rfl⟩
    rw [mem_keys_iff, isEmpty_iff.mp h] at hkey
    cases hkey
  · rintro rfl
    rfl

end BatchFailure

end BrokerFleet
