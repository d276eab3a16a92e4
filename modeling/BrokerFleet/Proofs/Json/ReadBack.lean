import BrokerFleet.Json.Sound
import BrokerFleet.Json.Writer
import BrokerFleet.Proofs.Text.ReadBack

/-! # Reading what was written

A document that holds nothing but integers of 64 bits, texts, and lists and objects of such values,
nested not too deep, is read back from its compact text. The reader is followed along the text: what
is written of a value is read off any text that starts with it, if what comes next does not make a
number longer. -/

namespace BrokerFleet.Json

/-- A value that a document carries, nested at most so deep: no literals, and no integers beyond 64
bits. -/
inductive Carried : Nat → Json → Prop where
  | null {depth : Nat} : Carried depth null
  | bool {depth : Nat} (b : Bool) : Carried depth (bool b)
  | int {depth : Nat} {n : Int} (hn : inRange n = true) : Carried depth (int n)
  | str {depth : Nat} (s : String) : Carried depth (str s)
  | arr {depth : Nat} {items : List Json} (hitems : ∀ v ∈ items, Carried depth v) :
      Carried (depth + 1) (arr items)
  | obj {depth : Nat} {fields : List (String × Json)} (hfields : ∀ e ∈ fields, Carried depth e.2) :
      Carried (depth + 1) (obj fields)

/-! ## Texts -/

theorem hexValue?_digitChar : ∀ n < 16, hexValue? (Nat.digitChar n) = some n := by decide

theorem padded_of_control :
    ∀ n < 0x20, Text.padded 16 4 n =
      ['0', '0', Nat.digitChar (n / 16), Nat.digitChar (n % 16)] := by decide

/-- A control character is read back from its number. -/
theorem textFrom_padded {n : Nat} (hn : n < 0x20) (more : List Char) :
    textFrom .plain ('\\' :: 'u' :: Text.padded 16 4 n ++ more) =
      (textFrom .plain more).map fun p => (Char.ofNat n :: p.1, p.2) := by
  have hzero : hexValue? '0' = some 0 := hexValue?_digitChar 0 (by decide)
  have hhigh := hexValue?_digitChar (n / 16) (by omega)
  have hlow := hexValue?_digitChar (n % 16) (by omega)
  have hvalue : n / 16 * 16 + n % 16 = n := by omega
  have hsmall : ¬ 0xD800 ≤ n ∧ ¬ 0xDC00 ≤ n := by omega
  simp [padded_of_control n hn, textFrom, hzero, hhigh, hlow, hvalue, hsmall]

/-- What is written of a character inside a text reads as that character. -/
theorem textFrom_escape (c : Char) (more : List Char) :
    textFrom .plain (escape c ++ more) = (textFrom .plain more).map fun p => (c :: p.1, p.2) := by
  have hletter {n : Nat} (hn : c.toNat = n) : c = Char.ofNat n := by rw [← hn, Char.ofNat_toNat]
  unfold escape
  iterate 2
    split
    · next hc => subst hc; simp [textFrom, letterEscape?]
  iterate 5
    split
    · next hc => cases hletter hc; simp [textFrom, letterEscape?]
  split
  · next hc => rw [textFrom_padded hc, Char.ofNat_toNat]
  · next hquote hbackslash _ _ _ _ _ hcontrol => simp [textFrom, hquote, hbackslash, hcontrol]

theorem textFrom_written (l rest : List Char) :
    textFrom .plain (l.flatMap escape ++ '"' :: rest) = some (l, rest) := by
  induction l with
  | nil => simp [textFrom]
  | cons c l ih => simp [List.flatMap_cons, List.append_assoc, textFrom_escape, ih]

theorem quoted_append (s : String) (rest : List Char) :
    quoted s ++ rest = '"' :: (s.toList.flatMap escape ++ '"' :: rest) := by
  simp [quoted]

theorem text?_written (s : String) (rest : List Char) :
    text? (s.toList.flatMap escape ++ '"' :: rest) = some (some s, rest) := by
  simp [text?, textFrom_written]

/-! ## Numbers -/

/-- What comes after a number does not make it longer: no digit, point or exponent. -/
def Ends (rest : List Char) : Prop :=
  ∀ c, rest.head? = some c → Text.isDigit c = false ∧ c ≠ '.' ∧ c ≠ 'e' ∧ c ≠ 'E'

theorem ends_nil : Ends [] := nofun

theorem ends_cons {c : Char} (rest : List Char)
    (hc : Text.isDigit c = false ∧ c ≠ '.' ∧ c ≠ 'e' ∧ c ≠ 'E') : Ends (c :: rest) := by
  rintro _ ⟨⟩
  exact hc

variable {rest : List Char}

theorem spanDigits_append {digits : List Char} (hdigits : ∀ c ∈ digits, Text.isDigit c = true)
    (hrest : Ends rest) : spanDigits (digits ++ rest) = (digits, rest) := by
  have hstop : rest.takeWhile Text.isDigit = [] ∧ rest.dropWhile Text.isDigit = rest := by
    cases rest with
    | nil => exact ⟨rfl, rfl⟩
    | cons c _ => simp [(hrest c rfl).1]
  rw [spanDigits, List.takeWhile_append_of_pos hdigits,
    List.dropWhile_append_of_pos hdigits, hstop.1, hstop.2, List.append_nil]

theorem fraction?_of_ends (hrest : Ends rest) : fraction? rest = some ([], rest) := by
  unfold fraction?
  split
  · exact absurd rfl (hrest _ rfl).2.1
  · rfl

theorem exponent?_of_ends (hrest : Ends rest) : exponent? rest = some ([], rest) := by
  cases rest with
  | nil => rfl
  | cons c _ => simp [exponent?, (hrest c rfl).2.2]

/-- The digits of a number, without a sign and with one. -/
theorem number?_digits {n : Nat} (hrest : Ends rest) :
    (inRange n = true → number? (Nat.toDigits 10 n ++ rest) = some (int n, rest)) ∧
      (inRange (-n) = true → n ≠ 0 →
        number? ('-' :: (Nat.toDigits 10 n ++ rest)) = some (int (-n), rest)) := by
  have hspan := spanDigits_append (fun _ hc => Text.isDigit_of_mem_toDigits (n := n) hc) hrest
  constructor
  · intro hn
    unfold number?
    split
    next sign text hsplit =>
      split at hsplit
      · next hminus => exact absurd hminus (Text.toDigits_append_ne_cons (by decide) rest _)
      · cases hsplit
        simpa [hspan, fraction?_of_ends hrest, exponent?_of_ends hrest,
          Text.digitsValue_toDigits, hn] using
          Text.head?_toDigits_of_length
  · intro hn hzero
    simpa [number?, hspan, fraction?_of_ends hrest, exponent?_of_ends hrest,
      Text.digitsValue_toDigits, hn, hzero] using Text.head?_toDigits_of_length

/-- Whether a number starts with a character. -/
def startsNumber (c : Char) : Bool := c == '-' || Text.isDigit c

theorem not_isSpace_of_startsNumber {c : Char} (hc : startsNumber c = true) :
    isSpace c = false := by
  rw [Bool.eq_false_iff]
  intro hspace
  simp only [isSpace, Bool.or_eq_true, beq_iff_eq] at hspace
  rcases hspace with ((rfl | rfl) | rfl) | rfl <;> cases hc

theorem skipSpace_cons {c : Char} (hc : isSpace c = false) (more : List Char) :
    skipSpace (c :: more) = c :: more := by
  simp [skipSpace, hc]

/-- No blank is skipped before a mark of the grammar, or before a word. -/
theorem skipSpace_mark {c : Char} (hc : c ∈ ['{', '}', '[', ']', '"', ':', ',', 'n', 't', 'f'])
    (more : List Char) : skipSpace (c :: more) = c :: more := by
  have hmarks : (['{', '}', '[', ']', '"', ':', ',', 'n', 't', 'f'].all fun c => !isSpace c) =
      true := rfl
  exact skipSpace_cons (by simpa using List.all_eq_true.mp hmarks c hc) more

theorem valueWithin_of_startsNumber {c : Char} (hc : startsNumber c = true) (fuel : Nat)
    (more : List Char) :
    valueWithin (fuel + 1) (c :: more) = number? (c :: more) := by
  rw [valueWithin, skipSpace_cons (not_isSpace_of_startsNumber hc)]
  split <;> first | rfl | next hother => (cases hother; cases hc)

theorem toList_toString (n : Int) : ∃ c l, (toString n).toList = c :: l ∧ startsNumber c = true ∧
    ∀ rest, inRange n = true → Ends rest → number? (c :: l ++ rest) = some (int n, rest) := by
  cases n with
  | ofNat m =>
    obtain ⟨c, l, hdigits, hc⟩ := Text.toDigits_eq_cons m
    refine ⟨c, l, Nat.toList_repr.trans hdigits, by simp [startsNumber, hc],
      fun rest hn hrest => ?_⟩
    rw [← hdigits]
    exact (number?_digits hrest).1 hn
  | negSucc m =>
    refine ⟨'-', Nat.toDigits 10 (m + 1), ?_, rfl, fun rest hn hrest => ?_⟩
    · rw [← Nat.toList_repr]
      exact String.toList_append
    · exact (number?_digits hrest).2 hn (Nat.succ_ne_zero m)

/-! ## Values -/

variable {v : Json} {depth : Nat}

/-- What is written of a value reads as that value, whatever ends it. -/
def ReadsBack (v : Json) : Prop :=
  ∀ fuel rest, (chars v).length ≤ fuel → Ends rest → valueWithin fuel (chars v ++ rest) =
    some (v, rest)

/-- A written value starts with a character of its own. -/
theorem chars_eq_cons (hv : Carried depth v) :
    ∃ c l, chars v = c :: l ∧ isSpace c = false ∧ c ≠ ']' := by
  cases hv with
  | null => exact ⟨_, _, rfl, by decide, by decide⟩
  | bool b => cases b <;> exact ⟨_, _, rfl, by decide, by decide⟩
  | @int _ n _ =>
    obtain ⟨c, l, htext, hc, -⟩ := toList_toString n
    refine ⟨c, l, htext, not_isSpace_of_startsNumber hc, ?_⟩
    rintro rfl
    cases hc
  | str s => exact ⟨_, _, rfl, by decide, by decide⟩
  | @arr _ items _ => cases items <;> exact ⟨_, _, rfl, by decide, by decide⟩
  | @obj _ fields _ =>
    rcases fields with _ | ⟨⟨k, v⟩, fields⟩ <;> exact ⟨_, _, rfl, by decide, by decide⟩

theorem itemsWithin_written {items : List Json} (hv : ReadsBack v)
    (hitems : ∀ w ∈ items, ReadsBack w) (fuel : Nat)
    (hfuel : (chars v).length + (itemChars items).length ≤ fuel) (rest : List Char) :
    itemsWithin fuel (chars v ++ (itemChars items ++ rest)) = some (v :: items, rest) := by
  induction items generalizing v fuel with
  | nil =>
    obtain _ | fuel := fuel
    · simp [itemChars] at hfuel
    · rw [itemChars, List.length_singleton, Nat.add_le_add_iff_right] at hfuel
      have hread := hv fuel (']' :: rest) hfuel (ends_cons _ (by decide))
      simp [itemsWithin, itemChars, hread, skipSpace_mark]
  | cons w items ih =>
    obtain ⟨hw, hitems⟩ := List.forall_mem_cons.mp hitems
    rw [itemChars, List.cons_append, List.length_cons, List.length_append] at hfuel
    obtain _ | fuel := fuel
    · omega
    · have hread :=
        hv fuel (',' :: (chars w ++ (itemChars items ++ rest))) (by omega) (ends_cons _ (by decide))
      have hmore := ih hw hitems fuel (by omega)
      simp [itemsWithin, itemChars, hread, hmore, skipSpace_mark]

theorem fieldsWithin_written {k : String} {fields : List (String × Json)} (hv : ReadsBack v)
    (hfields : ∀ e ∈ fields, ReadsBack e.2) (fuel : Nat)
    (hfuel : (quoted k).length + (chars v).length + (fieldChars fields).length ≤ fuel)
    (rest : List Char) :
    fieldsWithin fuel (quoted k ++ (':' :: (chars v ++ (fieldChars fields ++ rest)))) =
      some (some ((k, v) :: fields), rest) := by
  induction fields generalizing k v fuel with
  | nil =>
    obtain _ | fuel := fuel
    · simp [fieldChars] at hfuel
    · rw [fieldChars, List.length_singleton, Nat.add_le_add_iff_right] at hfuel
      have hread := hv fuel ('}' :: rest) (by omega) (ends_cons _ (by decide))
      rw [quoted_append]
      simp [fieldsWithin, fieldChars, text?_written, hread, skipSpace_mark]
  | cons e fields ih =>
    obtain ⟨k', v'⟩ := e
    obtain ⟨hv', hfields⟩ := List.forall_mem_cons.mp hfields
    simp only [fieldChars, List.cons_append, List.length_cons, List.length_append] at hfuel
    obtain _ | fuel := fuel
    · omega
    · have hread :=
        hv fuel (',' :: (quoted k' ++ (':' :: (chars v' ++ (fieldChars fields ++ rest)))))
        (by omega) (ends_cons _ (by decide))
      have hmore := ih (k := k') (v := v') hv' hfields fuel (by omega)
      rw [quoted_append k]
      simp [fieldsWithin, fieldChars, text?_written, hread, hmore, skipSpace_mark]

theorem readsBack_of_succ (hv : Carried depth v)
    (hread : ∀ fuel rest, (chars v).length ≤ fuel + 1 → Ends rest →
      valueWithin (fuel + 1) (chars v ++ rest) = some (v, rest)) : ReadsBack v := by
  intro fuel rest hfuel hrest
  obtain _ | fuel := fuel
  · obtain ⟨c, l, hchars, -⟩ := chars_eq_cons hv
    rw [hchars] at hfuel
    cases hfuel
  · exact hread fuel rest hfuel hrest

theorem Carried.readsBack (hv : Carried depth v) : ReadsBack v := by
  induction hv with
  | null =>
    refine readsBack_of_succ (.null : Carried 0 Json.null) fun fuel rest _ _ => ?_
    simp [valueWithin, chars, skipSpace_mark]
  | bool b =>
    refine readsBack_of_succ (.bool b : Carried 0 _) fun fuel rest _ _ => ?_
    cases b
    · simp [valueWithin, chars, skipSpace_mark]
    · simp [valueWithin, chars, skipSpace_mark]
  | @int _ n hn =>
    refine readsBack_of_succ (.int hn : Carried 0 _) fun fuel rest _ hrest => ?_
    obtain ⟨c, l, htext, hc, hread⟩ := toList_toString n
    rw [chars, htext, List.cons_append, valueWithin_of_startsNumber hc]
    exact hread rest hn hrest
  | str s =>
    refine readsBack_of_succ (.str s : Carried 0 _) fun fuel rest _ _ => ?_
    rw [chars, quoted_append]
    simp [valueWithin, text?_written, skipSpace_mark]
  | @arr _ items hitems ih =>
    refine readsBack_of_succ (.arr hitems) fun fuel rest hfuel _ => ?_
    cases items with
    | nil => simp [valueWithin, chars, skipSpace_mark]
    | cons w items =>
      obtain ⟨hw, hitems'⟩ := List.forall_mem_cons.mp ih
      obtain ⟨c, l, hchars, hspace, hbracket⟩ := chars_eq_cons (hitems w List.mem_cons_self)
      simp only [chars, List.cons_append, List.length_cons, List.length_append,
        Nat.add_le_add_iff_right] at hfuel
      have hread := itemsWithin_written hw hitems' fuel hfuel rest
      rw [hchars, List.cons_append] at hread
      simp [valueWithin, chars, hchars, hread, hbracket, skipSpace_mark, skipSpace_cons hspace]
  | @obj _ fields hfields ih =>
    refine readsBack_of_succ (.obj hfields) fun fuel rest hfuel _ => ?_
    rcases fields with _ | ⟨⟨k, w⟩, fields⟩
    · simp [valueWithin, chars, skipSpace_mark]
    · obtain ⟨hw, hfields'⟩ := List.forall_mem_cons.mp ih
      simp only [chars, List.cons_append, List.length_cons, List.length_append,
        Nat.add_le_add_iff_right] at hfuel
      have hread := fieldsWithin_written (k := k) (v := w) hw hfields' fuel (by omega) rest
      rw [quoted_append] at hread
      simp [valueWithin, chars, hread, quoted_append, skipSpace_mark]

/-! ## Documents -/

theorem itemsSound_iff {items : List Json} :
    itemsSound items depth = true ↔ ∀ v ∈ items, v.isSound depth = true := by
  induction items with
  | nil => simp [itemsSound]
  | cons v rest ih => simp [itemsSound, ih]

theorem fieldsSound_iff {fields : List (String × Json)} :
    fieldsSound fields depth = true ↔ ∀ e ∈ fields, e.2.isSound depth = true := by
  induction fields with
  | nil => simp [fieldsSound]
  | cons e rest ih => simp [fieldsSound, ih]

theorem Carried.isSound (hv : Carried depth v) : v.isSound depth = true := by
  induction hv with
  | arr _ ih => simpa [Json.isSound, itemsSound_iff] using ih
  | obj _ ih => simpa [Json.isSound, fieldsSound_iff] using ih
  | _ => rfl

theorem parse?_render (hv : Carried depth v) : parse? (render v) = some v := by
  have hread := hv.readsBack (2 * (chars v).length + 2) [] (by omega) ends_nil
  rw [List.append_nil] at hread
  simp [parse?, render, hread, skipSpace]

/-- A document reads as the value that it was written of. -/
theorem parseSound?_render (hv : Carried depthLimit v) : parseSound? (render v) = some v := by
  rw [parseSound?, parse?_render hv, Option.filter_some, if_pos hv.isSound]

end BrokerFleet.Json
