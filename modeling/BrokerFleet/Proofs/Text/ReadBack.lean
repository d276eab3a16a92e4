import BrokerFleet.Text.Cut
import BrokerFleet.Text.Number

/-! # Reading what was written

A decimal numeral reads as its number, and texts that were joined by a separator come apart at
it. -/

namespace BrokerFleet.Text

/-! ## Numerals -/

theorem isDigit_eq (c : Char) : isDigit c = c.isDigit := by
  simp only [isDigit, Char.isDigit, Char.le_def, ge_iff_le]

theorem digitsValue_eq (start : Nat) (l : List Char) :
    digitsValue start l = Nat.ofDigitChars 10 l start := by
  induction l generalizing start with
  | nil => rfl
  | cons c rest ih => exact (ih _).trans Nat.ofDigitChars_cons.symm

theorem digitsValue_toDigits (n : Nat) : digitsValue 0 (Nat.toDigits 10 n) = n := by
  rw [digitsValue_eq, Nat.ofDigitChars_ten_toDigits]

theorem isDigit_of_mem_toDigits {n : Nat} {c : Char} (hc : c ∈ Nat.toDigits 10 n) :
    isDigit c = true := by
  rw [isDigit_eq]
  exact Nat.isDigit_of_mem_toDigits (by decide) (by decide) hc

theorem toDigits_eq_cons (n : Nat) : ∃ c l, Nat.toDigits 10 n = c :: l ∧ isDigit c = true := by
  obtain ⟨c, l, hdigits⟩ := List.exists_cons_of_ne_nil (Nat.toDigits_ne_nil (n := n) (b := 10))
  exact ⟨c, l, hdigits, isDigit_of_mem_toDigits (hdigits ▸ List.mem_cons_self)⟩

/-- The digits of a number do not start with a sign. -/
theorem toDigits_append_ne_cons {n : Nat} {sign : Char} (hsign : isDigit sign = false)
    (rest more : List Char) :
    Nat.toDigits 10 n ++ rest ≠ sign :: more := by
  obtain ⟨c, l, hdigits, hc⟩ := toDigits_eq_cons n
  rw [hdigits]
  rintro ⟨⟩
  rw [hc] at hsign
  cases hsign

theorem head?_toDigits {n : Nat} (hn : n ≠ 0) : (Nat.toDigits 10 n).head? ≠ some '0' := by
  induction n using Nat.strongRecOn with
  | ind n ih =>
    rcases Nat.lt_or_ge n 10 with hlt | hge
    · rw [Nat.toDigits_of_lt_base hlt]
      have hdigit : ∀ n < 10, n ≠ 0 → [Nat.digitChar n].head? ≠ some '0' := by decide
      exact hdigit n hlt hn
    · obtain ⟨c, l, hdigits, -⟩ := toDigits_eq_cons (n / 10)
      have hhead := ih (n / 10) (by omega) (by omega)
      rw [hdigits] at hhead
      rwa [Nat.toDigits_of_base_le (by decide) hge, hdigits]

/-- A numeral of more than one digit does not start with zero. -/
theorem head?_toDigits_of_length {n : Nat} (hlength : 1 < (Nat.toDigits 10 n).length) :
    ¬ (Nat.toDigits 10 n).head? = some '0' := by
  refine head?_toDigits ?_
  rintro rfl
  exact absurd hlength (by decide)

theorem digits?_toDigits (n : Nat) : digits? (Nat.toDigits 10 n) = some n := by
  have hall : (Nat.toDigits 10 n).all isDigit = true :=
    List.all_eq_true.mpr fun c hc => isDigit_of_mem_toDigits hc
  rw [digits?, if_pos ⟨Nat.toDigits_ne_nil, hall⟩, digitsValue_toDigits]

theorem natBelow?_toString {n bound : Nat} (h : n < bound) :
    natBelow? bound (toString n).toList = some n := by
  rw [Nat.toString_eq_ofList_toDigits, String.toList_ofList]
  unfold natBelow?
  split
  · next rest hplus =>
    exact absurd ((List.append_nil _).trans hplus) (toDigits_append_ne_cons (by decide) [] rest)
  · simp [digits?_toDigits, h]

/-- A numeral reads as one number only. -/
theorem toString_inj {m n : Nat} (h : (toString m).toList = (toString n).toList) : m = n := by
  have hread : natBelow? (m + n + 1) (toString m).toList = some m := natBelow?_toString (by omega)
  rw [h, natBelow?_toString (by omega)] at hread
  exact (Option.some.inj hread).symm

/-- The numeral of a number holds digits only. -/
theorem notMem_toString {c : Char} (hc : isDigit c = false) (n : Nat) :
    c ∉ (toString n).toList := by
  rw [Nat.toString_eq_ofList_toDigits, String.toList_ofList]
  intro h
  rw [isDigit_of_mem_toDigits h] at hc
  cases hc

theorem all_of_digits? {text : List Char} {n : Nat} (h : digits? text = some n) :
    text.all isDigit = true := by
  unfold digits? at h
  split at h
  · next hdigits => exact hdigits.2
  · cases h

/-- A text that reads as a natural number holds digits only, but for a plus sign. -/
theorem notMem_of_natBelow? {c : Char} (hc : isDigit c = false) (hplus : c ≠ '+') {bound n : Nat}
    {text : List Char} (h : natBelow? bound text = some n) : c ∉ text := by
  have hdigits {l : List Char} (hl : (digits? l).filter (· < bound) = some n) : c ∉ l := by
    intro hmem
    have hread := all_of_digits? (Option.filter_eq_some_iff.mp hl).1
    rw [List.all_eq_true.mp hread c hmem] at hc
    cases hc
  unfold natBelow? at h
  dsimp only at h
  split at h
  · rw [List.mem_cons, not_or]
    exact ⟨hplus, hdigits h⟩
  · exact hdigits h

/-! ## Separators -/

variable {α : Type} [DecidableEq α] {sep : α}

theorem splitOn_eq (l : List α) : splitOn sep l = l.splitOn sep := by
  induction l with
  | nil => rw [splitOn, List.splitOn_nil]
  | cons c rest ih =>
    rw [splitOn, List.splitOn_cons_eq_if_modifyHead, ← ih]
    by_cases hc : c = sep
    · simp [hc]
    · cases hrest : splitOn sep rest with
      | nil => exact absurd (ih ▸ hrest) (List.splitOn_ne_nil sep rest)
      | cons piece pieces => simp [hc]

theorem splitOn_intercalate {ls : List (List α)} (hsep : ∀ l ∈ ls, sep ∉ l) (hls : ls ≠ []) :
    splitOn sep ([sep].intercalate ls) = ls := by
  rw [splitOn_eq, List.splitOn_intercalate sep hsep hls]

theorem splitOn_ne_nil (l : List α) : splitOn sep l ≠ [] := splitOn_eq l ▸ List.splitOn_ne_nil sep l

theorem intercalate_splitOn (l : List α) : [sep].intercalate (splitOn sep l) = l := by
  rw [splitOn_eq, List.intercalate_splitOn]

theorem splitOn_append (l rest : List α) :
    splitOn sep (l ++ sep :: rest) = splitOn sep l ++ splitOn sep rest := by
  simp only [splitOn_eq, List.splitOn_eq_splitOnP]
  exact List.splitOnP_append_cons l rest (beq_self_eq_true sep)

omit [DecidableEq α] in
theorem intercalate_append {ls ms : List (List α)} (hls : ls ≠ []) (hms : ms ≠ []) :
    [sep].intercalate (ls ++ ms) = [sep].intercalate ls ++ sep :: [sep].intercalate ms := by
  induction ls with
  | nil => exact absurd rfl hls
  | cons l ls ih =>
    rw [List.cons_append, List.intercalate_cons_of_ne_nil (by simp [hms])]
    by_cases hnil : ls = []
    · simp [hnil]
    · simp [ih hnil, List.intercalate_cons_of_ne_nil hnil]

/-- The pieces of a text are the first pieces of another exactly if this is the same text, or goes
on after it with a separator. -/
theorem splitOn_prefix_iff {l m : List α} :
    splitOn sep l <+: splitOn sep m ↔ m = l ∨ l ++ [sep] <+: m := by
  constructor
  · rintro ⟨pieces, hpieces⟩
    have hm : [sep].intercalate (splitOn sep l ++ pieces) = m := by
      rw [hpieces, intercalate_splitOn]
    by_cases hnil : pieces = []
    · exact .inl (by rw [← hm, hnil, List.append_nil, intercalate_splitOn])
    · rw [intercalate_append (splitOn_ne_nil l) hnil, intercalate_splitOn] at hm
      exact .inr ⟨_, by rw [← hm, List.append_assoc, List.singleton_append]⟩
  · rintro (rfl | ⟨rest, rfl⟩)
    · exact List.prefix_rfl
    · rw [List.append_assoc, List.singleton_append, splitOn_append]
      exact List.prefix_append _ _

theorem splitFirst?_append {key : List α} (hkey : sep ∉ key) (value : List α) :
    splitFirst? sep (key ++ sep :: value) = some (key, value) := by
  induction key with
  | nil => simp [splitFirst?]
  | cons c rest ih =>
    simp only [List.mem_cons, not_or] at hkey
    simp [splitFirst?, Ne.symm hkey.1, ih hkey.2]

/-- A text tells what stands before and after its last separator. -/
theorem last_separator_inj {before before' after after' : List α} (hafter : sep ∉ after)
    (hafter' : sep ∉ after') (h : before ++ sep :: after = before' ++ sep :: after') :
    before = before' ∧ after = after' := by
  have hreverse : after.reverse ++ sep :: before.reverse = after'.reverse ++ sep ::
      before'.reverse := by
    simpa using congrArg List.reverse h
  have hfirst := congrArg (splitFirst? sep) hreverse
  rw [splitFirst?_append (by simpa using hafter), splitFirst?_append (by simpa using hafter'),
    Option.some_inj, Prod.mk.injEq, List.reverse_inj, List.reverse_inj] at hfirst
  exact hfirst.symm

end BrokerFleet.Text
