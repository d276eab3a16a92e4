import BrokerFleet.Proofs.Declaration.Fields
import BrokerFleet.Proofs.Text.ReadBack
import BrokerFleet.Workload.Build

/-! # The thresholds of a disruption budget

The checks of the fields pass numbers of any size, percentages and the empty text. The budget
carries a number of 32 bits as a number and everything else as the text that was declared. So what
it carries is a number or a percentage unless the text is empty or its number too great. -/

namespace BrokerFleet

/-! ## Numerals -/

/-- A text of one or more digits. -/
structure IsNumeral (text : List Char) : Prop where
  ne_nil : text ≠ []
  digits : ∀ c ∈ text, c.isDigit = true

/-- The number that digits write. -/
def numeral (text : String) : Nat := Nat.ofDigitChars 10 text.toList 0

namespace IsNumeral

variable {l digits : List Char} {text : String}

theorem iff_all : IsNumeral l ↔ l ≠ [] ∧ l.all Text.isDigit = true := by
  simp only [List.all_eq_true, Text.isDigit_eq]
  exact ⟨fun h => ⟨h.ne_nil, h.digits⟩, fun h => ⟨h.1, h.2⟩⟩

theorem digits?_eq (htext : IsNumeral text.toList) :
    Text.digits? text.toList = some (numeral text) := by
  rw [Text.digits?, if_pos (iff_all.mp htext), Text.digitsValue_eq]
  rfl

theorem not_concat_percent : ¬ IsNumeral (digits ++ ['%']) := by
  intro h
  exact absurd (h.digits '%' (by simp)) (by decide)

/-- A text that starts with a digit has no sign: its number is that of its digits, if it has 32
bits. -/
theorem int32?_append (hdigits : IsNumeral digits) (rest : List Char) :
    Text.int32? (digits ++ rest) =
      (((Text.digits? (digits ++ rest)).map fun n : Nat => (n : Int)).filter
        fun n => -2147483648 ≤ n ∧ n < 2147483648).map Int32.ofInt := by
  obtain ⟨c, l, rfl⟩ := List.exists_cons_of_ne_nil hdigits.ne_nil
  have hc : c.isDigit = true := hdigits.digits c List.mem_cons_self
  unfold Text.int32?
  split
  · next heq =>
    obtain rfl : c = '-' := (List.cons.inj heq).1
    exact absurd hc (by decide)
  · next heq =>
    obtain rfl : c = '+' := (List.cons.inj heq).1
    exact absurd hc (by decide)
  · cases Text.digits? (c :: l ++ rest) <;> rfl

theorem int32?_eq (htext : IsNumeral text.toList) :
    Text.int32? text.toList =
      if numeral text < 2147483648 then some (Int32.ofInt (numeral text)) else none := by
  have hread := htext.int32?_append []
  rw [List.append_nil, htext.digits?_eq, Option.map_some, Option.filter_some] at hread
  rw [hread]
  by_cases hsmall : numeral text < 2147483648
  · rw [if_pos hsmall, if_pos (by simp; omega), Option.map_some]
  · rw [if_neg hsmall, if_neg (by simp; omega), Option.map_none]

theorem int32?_percent (hdigits : IsNumeral digits) : Text.int32? (digits ++ ['%']) = none := by
  have hnone : Text.digits? (digits ++ ['%']) = none :=
    if_neg fun h => not_concat_percent (iff_all.mpr h)
  rw [hdigits.int32?_append, hnone]
  rfl

end IsNumeral

/-! ## What is carried -/

/-- A number that has no place in 32 bits. -/
structure Oversized (text : String) : Prop where
  digits : IsNumeral text.toList
  large : 2147483648 ≤ numeral text

/-- What a declared text stands for: the number that its digits write, or digits with a percent
sign. -/
inductive Renders (text : String) : IntOrString → Prop where
  | number (htext : IsNumeral text.toList) : Renders text (.int (numeral text))
  | percent {digits : List Char} (htext : text.toList = digits ++ ['%'])
      (hdigits : IsNumeral digits) :
      Renders text (.str text)

/-- What a budget carries for a declared text: what the text stands for, unless it is empty or its
number too great, and then the text as it is. -/
structure Carries (text : String) (value : IntOrString) : Prop where
  renders_iff : Renders text value ↔ text ≠ "" ∧ ¬ Oversized text
  verbatim : ¬ Renders text value → value = .str text

theorem not_renders_empty (value : IntOrString) : ¬ Renders "" value := by
  rintro (⟨hempty⟩ | ⟨hempty, -⟩)
  · exact hempty.ne_nil rfl
  · simp at hempty

theorem not_renders_oversized {text : String} (hoversized : Oversized text) :
    ¬ Renders text (.str text) := by
  rintro (_ | ⟨htext, -⟩)
  exact IsNumeral.not_concat_percent (htext ▸ hoversized.digits)

/-- What the checks of the fields pass is carried as what it stands for, or as it is. -/
theorem Constraint.Threshold.carries {text : String} (htext : Constraint.Threshold text.toList) :
    Carries text (WorkloadPlan.threshold text) := by
  generalize hl : text.toList = l at htext
  unfold WorkloadPlan.threshold
  cases htext with
  | empty =>
    obtain rfl : text = "" := String.toList_injective hl
    exact ⟨iff_of_false (not_renders_empty _) fun h => h.1 rfl, fun _ => rfl⟩
  | number hne hdigits =>
    subst hl
    have hnumeral : IsNumeral text.toList := IsNumeral.iff_all.mpr ⟨hne, hdigits⟩
    have hnonempty : text ≠ "" := by
      rintro rfl
      exact hne rfl
    rw [hnumeral.int32?_eq]
    by_cases hsmall : numeral text < 2147483648
    · rw [if_pos hsmall]
      have hvalue : (Int32.ofInt (numeral text)).toInt = numeral text :=
        Int32.toInt_ofInt_of_le (by omega) (by omega)
      have hfits : ¬ Oversized text := fun h => Nat.not_le.mpr hsmall h.large
      dsimp only
      rw [hvalue]
      exact ⟨iff_of_true (.number hnumeral) ⟨hnonempty, hfits⟩,
        fun h => absurd (.number hnumeral) h⟩
    · rw [if_neg hsmall]
      have hoversized : Oversized text := ⟨hnumeral, Nat.not_lt.mp hsmall⟩
      exact ⟨iff_of_false (not_renders_oversized hoversized) fun h => h.2 hoversized, fun _ => rfl⟩
  | @percent digits hne hdigits =>
    have hnumeral : IsNumeral digits := IsNumeral.iff_all.mpr ⟨hne, hdigits⟩
    have hfits : ¬ Oversized text := fun h => IsNumeral.not_concat_percent (hl ▸ h.digits)
    have hnonempty : text ≠ "" := by
      rintro rfl
      simp at hl
    rw [hl, hnumeral.int32?_percent]
    exact ⟨iff_of_true (.percent hl hnumeral) ⟨hnonempty, hfits⟩, fun _ => rfl⟩

/-- A cluster whose fields are in order and that declares a disruption budget gets one, with a
threshold exactly where one is declared; it is the number or the percentage that was declared,
unless that is an empty text or a number beyond 32 bits. -/
theorem WorkloadPlan.disruptionBudget?_carries {p : WorkloadPlan}
    (hfields : p.cluster.spec.violations = []) {declared : DisruptionBudget}
    (hdeclared : p.cluster.spec.deploymentPlan.podDisruptionBudget = some declared) :
    ∃ b, p.disruptionBudget? = some b ∧ Option.Rel Carries declared.minAvailable b.minAvailable ∧
      Option.Rel Carries declared.maxUnavailable b.maxUnavailable := by
  have hwell : declared.WellFormed :=
    (ClusterSpec.violations_eq_nil_iff.mp hfields).budget declared hdeclared
  have hcarries {side : Option String}
      (hside : ∀ t, side = some t → Constraint.Threshold t.toList) :
      Option.Rel Carries side (side.map threshold) := by
    cases side with
    | none => exact .none
    | some text => exact .some (hside text rfl).carries
  exact ⟨_, by rw [disruptionBudget?, hdeclared, Option.map_some], hcarries hwell.minAvailable,
    hcarries hwell.maxUnavailable⟩

def budgeted (declared : DisruptionBudget) : WorkloadPlan where
  cluster := {
    metadata := { name := some "broker", ns := some "test-ns" }
    spec := { deploymentPlan := { podDisruptionBudget := some declared } } }
  ns := "test-ns"

/-- A number with leading zeros and a percentage are carried as what they stand for. -/
theorem WorkloadPlan.disruptionBudget?_carries_mixed :
    let declared : DisruptionBudget := { minAvailable := some "007", maxUnavailable := some "50%" }
    (budgeted declared).cluster.spec.violations = [] ∧
      (budgeted declared).cluster.spec.deploymentPlan.podDisruptionBudget = some declared ∧
      ∃ b, (budgeted declared).disruptionBudget? = some b ∧
        Option.Rel Carries (some "007") b.minAvailable ∧
        Option.Rel Carries (some "50%") b.maxUnavailable := by
  intro declared
  have hfields : (budgeted declared).cluster.spec.violations = [] := by decide
  exact ⟨hfields, rfl, disruptionBudget?_carries hfields rfl⟩

/-- An empty threshold passes the checks of the fields and is carried as an empty text, and a number
that is too great as a text of digits. -/
theorem improper_thresholds_carried :
    let declared : DisruptionBudget :=
      { minAvailable := some "", maxUnavailable := some "2147483648" }
    (budgeted declared).cluster.spec.violations = [] ∧
      ∃ b, (budgeted declared).disruptionBudget? = some b ∧
      b.minAvailable = some (.str "") ∧ ¬ Renders "" (.str "") ∧
      b.maxUnavailable = some (.str "2147483648") ∧ ¬ Renders "2147483648" (.str "2147483648") := by
  intro declared
  have hoversized : Oversized "2147483648" := ⟨IsNumeral.iff_all.mpr (by decide), by decide⟩
  exact ⟨by decide, _, rfl, rfl, not_renders_empty _, rfl, not_renders_oversized hoversized⟩

end BrokerFleet
