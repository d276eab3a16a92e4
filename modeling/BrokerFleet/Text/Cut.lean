/-! # Cutting texts

Taking a known beginning or end off a text, finding a text inside another, and splitting at a
separator, all on lists of characters. -/

namespace BrokerFleet.Text

variable {α : Type} [DecidableEq α]

/-- What follows a given beginning, if the list starts with it. -/
def dropHead? : List α → List α → Option (List α)
  | [], text => some text
  | _ :: _, [] => none
  | c :: head, d :: text => if c = d then dropHead? head text else none

theorem dropHead?_eq_some_iff {head text rest : List α} :
    dropHead? head text = some rest ↔ text = head ++ rest := by
  induction head generalizing text with
  | nil => simp [dropHead?, eq_comm]
  | cons c head ih =>
    cases text with
    | nil => simp [dropHead?]
    | cons d text =>
      by_cases h : c = d
      · simp [dropHead?, h, ih]
      · have : d ≠ c := Ne.symm h
        simp [dropHead?, h, this]

/-- What precedes a given end, if the list ends with it. -/
def dropTail? (tail text : List α) : Option (List α) :=
  (dropHead? tail.reverse text.reverse).map List.reverse

theorem dropTail?_eq_some_iff {tail text rest : List α} :
    dropTail? tail text = some rest ↔ text = rest ++ tail := by
  simp only [dropTail?, Option.map_eq_some_iff, dropHead?_eq_some_iff]
  constructor
  · rintro ⟨a, h, rfl⟩
    simpa using congrArg List.reverse h
  · rintro rfl
    exact ⟨rest.reverse, by simp, by simp⟩

/-- Whether a list occurs as a run of neighbours in another. -/
def occursIn (part : List α) : List α → Bool
  | [] => (dropHead? part []).isSome
  | c :: text => (dropHead? part (c :: text)).isSome || occursIn part text

theorem occursIn_iff {part text : List α} :
    occursIn part text = true ↔ ∃ before after, text = before ++ part ++ after := by
  induction text with
  | nil =>
    simp only [occursIn, Option.isSome_iff_exists, dropHead?_eq_some_iff]
    constructor
    · rintro ⟨a, h⟩
      exact ⟨[], a, by simpa using h⟩
    · rintro ⟨b, a, h⟩
      simp at h
      exact ⟨[], by simp [h]⟩
  | cons c text ih =>
    simp only [occursIn, Bool.or_eq_true, Option.isSome_iff_exists, dropHead?_eq_some_iff, ih]
    constructor
    · rintro (⟨a, h⟩ | ⟨b, a, h⟩)
      · exact ⟨[], a, by simpa using h⟩
      · exact ⟨c :: b, a, by simp [h]⟩
    · rintro ⟨b, a, h⟩
      cases b with
      | nil => exact .inl ⟨a, by simpa using h⟩
      | cons d b =>
        simp only [List.cons_append, List.cons.injEq] at h
        exact .inr ⟨b, a, by simp [h.2]⟩

/-- The pieces of a list between the occurrences of a separator. -/
def splitOn (sep : α) : List α → List (List α)
  | [] => [[]]
  | c :: text =>
    if c = sep then [] :: splitOn sep text
    else match splitOn sep text with
      | [] => [[c]]
      | piece :: rest => (c :: piece) :: rest

/-- A list up to the first occurrence of a separator, and what follows that one, if it occurs. -/
def splitFirst? (sep : α) : List α → Option (List α × List α)
  | [] => none
  | c :: text =>
    if c = sep then some ([], text)
    else (splitFirst? sep text).map fun p => (c :: p.1, p.2)

def endsWith (text tail : String) : Bool := (dropTail? tail.toList text.toList).isSome

theorem endsWith_iff {text tail : String} :
    endsWith text tail = true ↔ tail.toList <:+ text.toList := by
  rw [endsWith, Option.isSome_iff_exists]
  simp only [dropTail?_eq_some_iff]
  exact ⟨fun ⟨rest, h⟩ => ⟨rest, h.symm⟩, fun ⟨rest, h⟩ => ⟨rest, h.symm⟩⟩

end BrokerFleet.Text
