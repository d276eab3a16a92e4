import BrokerFleet.Proofs.Cluster.Images
import BrokerFleet.Proofs.Text.ReadBack

/-! # Resolving a version

A declared version is looked for twice, as it is and as the start of a longer one. Both come to one
comparison of parts: a text stands for the versions whose first parts are its own, and of these the
last is meant. -/

namespace BrokerFleet.Version

variable {text version declared : String}

/-- The parts of a version, between its points. -/
def parts (version : String) : List (List Char) := Text.splitOn '.' version.toList

/-- A text stands for a version if its parts are the first parts of the version. -/
def StandsFor (text version : String) : Prop := parts text <+: parts version

instance (text version : String) : Decidable (StandsFor text version) :=
  inferInstanceAs (Decidable (_ <+: _))

/-- Whether a text stands for a version can be told without taking either apart. -/
theorem standsFor_iff :
    StandsFor text version ↔
      version = text ∨ (Text.dropHead? (text.toList ++ ['.']) version.toList).isSome := by
  rw [StandsFor, parts, parts, Text.splitOn_prefix_iff, String.toList_inj, Option.isSome_iff_exists]
  refine or_congr_right (exists_congr fun rest => ?_)
  rw [Text.dropHead?_eq_some_iff, eq_comm]

/-! ## The table of versions -/

/-- No version continues another: each is the last that it stands for. -/
theorem getLast?_of_mem_supported :
    ∀ v ∈ supported, (supported.filter fun w => StandsFor v w).getLast? = some v := by decide

theorem nil_notMem_parts : ∀ v ∈ supported, [] ∉ parts v := by decide

/-- A text with an empty part stands for no version. -/
theorem not_standsFor_of_nil (htext : [] ∈ parts text) (hversion : version ∈ supported) :
    ¬ StandsFor text version :=
  fun hstands => nil_notMem_parts version hversion (hstands.subset htext)

theorem nil_mem_parts_of_point (htext : ['.'] <:+ text.toList) : [] ∈ parts text := by
  obtain ⟨before, hbefore⟩ := htext
  rw [parts, ← hbefore, Text.splitOn_append]
  exact List.mem_append_right _ (by simp [Text.splitOn])

/-! ## Resolution -/

/-- The two searches, for the text itself and for what goes on after it, find the last version that
the text stands for. -/
theorem resolve?_eq (declared : String) :
    resolve? declared = (supported.filter fun v => StandsFor (Text.trim declared) v).getLast? := by
  unfold resolve?
  dsimp only
  generalize Text.trim declared = text
  split
  · next hempty =>
    subst hempty
    rfl
  split
  · next exact hexact =>
    obtain rfl : exact = text := by simpa using List.find?_some hexact
    exact (getLast?_of_mem_supported exact (List.mem_of_find?_eq_some hexact)).symm
  · next hnone =>
    rw [← List.getLast?_filter]
    refine congrArg List.getLast? (List.filter_congr fun v hv => ?_)
    have hne : v ≠ text := by simpa using List.find?_eq_none.mp hnone v hv
    simp [standsFor_iff, hne]

theorem resolve?_eq_none_of_nil (htext : [] ∈ parts (Text.trim declared)) :
    resolve? declared = none := by
  rw [resolve?_eq, List.getLast?_eq_none_iff, List.filter_eq_nil_iff]
  intro v hv
  simpa using not_standsFor_of_nil htext hv

theorem resolve?_of_mem_supported : ∀ v ∈ supported, resolve? v = some v := by decide

/-- A declared version resolves to the last supported one whose parts start with its own, so a part
that is cut short never matches. It resolves to nothing where there is none, which is so for an
empty text and after a point at the end. What it resolves to resolves to itself. -/
theorem resolve?_eq_last (declared : String) :
    resolve? declared = (supported.filter fun v =>
      parts (Text.trim declared) <+: parts v).getLast? ∧
      (Text.trim declared = "" → resolve? declared = none) ∧
      (['.'] <:+ (Text.trim declared).toList → resolve? declared = none) ∧
      ∀ version, resolve? declared = some version → resolve? version = some version := by
  refine ⟨resolve?_eq declared, fun hempty => ?_, fun hpoint => ?_, fun version hversion => ?_⟩
  · exact resolve?_eq_none_of_nil (by rw [hempty]; decide)
  · exact resolve?_eq_none_of_nil (nil_mem_parts_of_point hpoint)
  · exact resolve?_of_mem_supported version (mem_supported_of_resolve? hversion)

/-- A minor version between blanks, and the same cut short, ended by a point and left out. -/
theorem resolve?_eq_last_minor :
    resolve? " 2.27\n" = some "2.27.1" ∧ resolve? "2.27.1" = some "2.27.1" ∧ resolve? "2.2" = none ∧
      ['.'] <:+ (Text.trim "2.27.").toList ∧ resolve? "2.27." = none ∧
      Text.trim "\t" = "" ∧ resolve? "\t" = none := by
  have hminor : resolve? " 2.27\n" = some "2.27.1" := by
    rw [(resolve?_eq_last _).1]
    decide
  have hcut : resolve? "2.2" = none := by
    rw [(resolve?_eq_last _).1]
    decide
  have hpoint : ['.'] <:+ (Text.trim "2.27.").toList := by decide
  have hblank : Text.trim "\t" = "" := by decide
  exact ⟨hminor, (resolve?_eq_last _).2.2.2 _ hminor, hcut, hpoint,
    (resolve?_eq_last _).2.2.1 hpoint, hblank, (resolve?_eq_last _).2.1 hblank⟩

end BrokerFleet.Version
