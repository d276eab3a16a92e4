import BrokerFleet.Declaration.Cluster

/-! # Field constraints, declared

Which names, thresholds, sizes and versions the checks of the fields pass. -/

namespace BrokerFleet

/-! ## Names and thresholds -/

namespace Constraint

variable {value : String} {text : List Char}

/-- Lowercase letters and digits. -/
def isAlnum (c : Char) : Bool := ('a' ≤ c && c ≤ 'z') || ('0' ≤ c && c ≤ '9')

/-- A lowercase letter or digit, or two of them around letters, digits and hyphens. -/
inductive LabelText : List Char → Prop where
  | single {c : Char} (hc : isAlnum c = true) : LabelText [c]
  | framed {c d : Char} {inner : List Char} (hc : isAlnum c = true) (hd : isAlnum d = true)
      (hinner : ∀ x ∈ inner, isLabelChar x = true) : LabelText (c :: (inner ++ [d]))

theorem isAlnum_iff (c : Char) : isAlnum c = true ↔ isLabelChar c = true ∧ c ≠ '-' := by
  have hhyphen : isAlnum '-' = false := by decide
  constructor
  · intro hc
    refine ⟨by simp only [isAlnum] at hc; simp [isLabelChar, hc], ?_⟩
    rintro rfl
    rw [hhyphen] at hc
    cases hc
  · rintro ⟨hc, hne⟩
    simpa [isLabelChar, isAlnum, hne] using hc

theorem isLabelChar_of_isAlnum {c : Char} (hc : isAlnum c = true) : isLabelChar c = true :=
  ((isAlnum_iff c).mp hc).1

theorem isLabelText_iff : isLabelText text = true ↔ LabelText text := by
  constructor
  · intro h
    simp only [isLabelText, Bool.and_eq_true, Bool.not_eq_true', bne_iff_ne, ne_eq,
      List.isEmpty_eq_false_iff, List.all_eq_true] at h
    obtain ⟨⟨⟨hne, hall⟩, hhead⟩, hlast⟩ := h
    obtain ⟨c, rest, rfl⟩ := List.exists_cons_of_ne_nil hne
    have hc : isAlnum c = true :=
      (isAlnum_iff c).mpr ⟨hall c List.mem_cons_self, by simpa using hhead⟩
    rcases List.eq_nil_or_concat rest with rfl | ⟨inner, d, rfl⟩
    · exact .single hc
    · rw [List.concat_eq_append] at hall hlast ⊢
      have hlast' : d ≠ '-' := by
        rw [← List.cons_append, List.getLast?_concat] at hlast
        simpa using hlast
      have hd : isAlnum d = true := (isAlnum_iff d).mpr ⟨hall d (by simp), hlast'⟩
      exact .framed hc hd fun x hx => hall x (by simp [hx])
  · intro h
    cases h with
    | single hc =>
      have hne := ((isAlnum_iff _).mp hc).2
      simp [isLabelText, isLabelChar_of_isAlnum hc, hne]
    | framed hc hd hinner =>
      have hc' := ((isAlnum_iff _).mp hc).2
      have hd' := ((isAlnum_iff _).mp hd).2
      rw [isLabelText, ← List.cons_append, List.getLast?_concat]
      simpa [isLabelChar_of_isAlnum hc, isLabelChar_of_isAlnum hd, hc', hd'] using hinner

/-- A label of RFC 1123. -/
structure Label (value : String) : Prop where
  short : value.utf8ByteSize ≤ 63
  text : LabelText value.toList

theorem name_eq_none_iff : name value = none ↔ Label value := by
  unfold name
  split
  · next hlong => exact iff_of_false nofun fun h => absurd h.short (Nat.not_le.mpr hlong)
  · next hshort =>
    split
    · next htext => exact iff_of_true rfl ⟨Nat.not_lt.mp hshort, isLabelText_iff.mp htext⟩
    · next htext => exact iff_of_false nofun fun h => htext (isLabelText_iff.mpr h.text)

theorem names_eq_none_iff {values : List String} : names values = none ↔ ∀ v ∈ values, Label v := by
  simp only [names, List.findSome?_eq_none_iff, name_eq_none_iff]

/-- Nothing, or a number, or a number with a percent sign. -/
inductive Threshold : List Char → Prop where
  | empty : Threshold []
  | number {digits : List Char} (hne : digits ≠ []) (hdigits : digits.all Text.isDigit = true) :
      Threshold digits
  | percent {digits : List Char} (hne : digits ≠ []) (hdigits : digits.all Text.isDigit = true) :
      Threshold (digits ++ ['%'])

/-- A text without its percent sign, if it ends with one. -/
def unsigned (text : List Char) : List Char :=
  if text.getLast? = some '%' then text.dropLast else text

theorem unsigned_concat (digits : List Char) : unsigned (digits ++ ['%']) = digits := by
  rw [unsigned, if_pos List.getLast?_concat, List.dropLast_concat]

theorem unsigned_of_digits {digits : List Char} (h : digits.all Text.isDigit = true) :
    unsigned digits = digits := by
  refine if_neg fun hlast => ?_
  have hsign : Text.isDigit '%' = true := List.all_eq_true.mp h _ (List.mem_of_getLast? hlast)
  exact absurd hsign (by decide)

theorem threshold_iff :
    Threshold text ↔ text = [] ∨ unsigned text ≠ [] ∧ (unsigned text).all Text.isDigit = true := by
  constructor
  · intro h
    cases h with
    | empty => exact .inl rfl
    | number hne hdigits => exact .inr (by rw [unsigned_of_digits hdigits]; exact ⟨hne, hdigits⟩)
    | percent hne hdigits => exact .inr (by rw [unsigned_concat]; exact ⟨hne, hdigits⟩)
  · rintro (rfl | ⟨hne, hdigits⟩)
    · exact .empty
    · by_cases hlast : text.getLast? = some '%'
      · obtain ⟨digits, rfl⟩ := List.getLast?_eq_some_iff.mp hlast
        rw [unsigned_concat] at hne hdigits
        exact .percent hne hdigits
      · rw [unsigned, if_neg hlast] at hne hdigits
        exact .number hne hdigits

theorem intOrPercent_eq_none_iff : intOrPercent value = none ↔ Threshold value.toList := by
  have heq : intOrPercent value =
      if value.toList = [] ∨
        unsigned value.toList ≠ [] ∧ (unsigned value.toList).all Text.isDigit = true
      then none else some (.notIntOrPercent value) := rfl
  rw [heq, threshold_iff]
  simp only [ite_eq_left_iff, reduceCtorEq, imp_false, Decidable.not_not]

end Constraint

/-! ## Clusters -/

theorem Violation.atField_eq_nil_iff {field : String} {breach : Option Breach} :
    atField field breach = [] ↔ breach = none := by
  cases breach <;> simp [atField]

open Constraint

/-- The mounted names are labels. -/
structure ExtraMounts.WellFormed (m : ExtraMounts) : Prop where
  configMaps : ∀ n ∈ m.configMaps, Label n
  secrets : ∀ n ∈ m.secrets, Label n

theorem ExtraMounts.violations_eq_nil_iff {m : ExtraMounts} : m.violations = [] ↔ m.WellFormed := by
  simp only [violations, List.append_eq_nil_iff, Violation.atField_eq_nil_iff, names_eq_none_iff]
  exact ⟨fun ⟨hmaps, hsecrets⟩ => ⟨hmaps, hsecrets⟩, fun ⟨hmaps, hsecrets⟩ => ⟨hmaps, hsecrets⟩⟩

/-- The thresholds that are given are thresholds. -/
structure DisruptionBudget.WellFormed (b : DisruptionBudget) : Prop where
  minAvailable : ∀ t, b.minAvailable = some t → Threshold t.toList
  maxUnavailable : ∀ t, b.maxUnavailable = some t → Threshold t.toList

theorem DisruptionBudget.violations_eq_nil_iff {b : DisruptionBudget} :
    b.violations = [] ↔ b.WellFormed := by
  simp only [violations, List.append_eq_nil_iff, Violation.atField_eq_nil_iff,
    Option.bind_eq_none_iff, intOrPercent_eq_none_iff]
  exact ⟨fun ⟨hmin, hmax⟩ => ⟨hmin, hmax⟩, fun ⟨hmin, hmax⟩ => ⟨hmin, hmax⟩⟩

/-- The constraints on the fields of a declared cluster. -/
structure ClusterSpec.WellFormed (s : ClusterSpec) : Prop where
  version : ∀ v, s.version = some v → v.length ≤ 64
  size_nonneg : 0 ≤ s.deploymentPlan.size.toInt
  size_le : s.deploymentPlan.size.toInt ≤ 100
  extraMounts : s.deploymentPlan.extraMounts.WellFormed
  budget : ∀ b, s.deploymentPlan.podDisruptionBudget = some b → b.WellFormed

theorem DeploymentPlan.violations_eq_nil_iff {p : DeploymentPlan} :
    p.violations = [] ↔ (0 ≤ p.size.toInt ∧ p.size.toInt ≤ 100) ∧ p.extraMounts.WellFormed ∧
      ∀ b, p.podDisruptionBudget = some b → b.WellFormed := by
  have hsize : (if 0 ≤ p.size.toInt ∧ p.size.toInt ≤ 100 then none else some Breach.sizeRange) =
      none ↔
      0 ≤ p.size.toInt ∧ p.size.toInt ≤ 100 := by
    simp only [ite_eq_left_iff, reduceCtorEq, imp_false, Decidable.not_not]
  have hbudget : p.podDisruptionBudget.elim [] DisruptionBudget.violations = [] ↔
      ∀ b, p.podDisruptionBudget = some b → b.WellFormed := by
    cases p.podDisruptionBudget with
    | none => simp
    | some b => simp [DisruptionBudget.violations_eq_nil_iff]
  simp only [violations, List.append_eq_nil_iff, List.map_eq_nil_iff, Violation.atField_eq_nil_iff,
    ExtraMounts.violations_eq_nil_iff, hbudget, hsize, and_assoc]

theorem ClusterSpec.violations_eq_nil_iff {s : ClusterSpec} : s.violations = [] ↔ s.WellFormed := by
  have hversion : (s.version.bind fun v =>
      if v.length > 64 then some Breach.versionLength else none) =
      none ↔ ∀ v, s.version = some v → v.length ≤ 64 := by
    simp [Option.bind_eq_none_iff]
  rw [violations, List.append_eq_nil_iff, List.map_eq_nil_iff,
    Violation.atField_eq_nil_iff, hversion, DeploymentPlan.violations_eq_nil_iff]
  constructor
  · rintro ⟨hversion, ⟨hnonneg, hle⟩, hmounts, hbudget⟩
    exact ⟨hversion, hnonneg, hle, hmounts, hbudget⟩
  · rintro ⟨hversion, hnonneg, hle, hmounts, hbudget⟩
    exact ⟨hversion, ⟨hnonneg, hle⟩, hmounts, hbudget⟩

end BrokerFleet
