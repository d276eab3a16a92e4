import BrokerFleet.Dict

/-! # Keys of namespaced objects

Within a kind an object is known by its namespace and its name. Keys are ordered by namespace
first. -/

namespace BrokerFleet

open Std

/-- The identity of a namespaced object within its kind. -/
structure ObjectKey where
  ns : String
  name : String
  deriving DecidableEq, Repr, Inhabited

namespace ObjectKey

instance : Ord ObjectKey := ⟨compareLex (compareOn ObjectKey.ns) (compareOn ObjectKey.name)⟩

instance : TransOrd ObjectKey :=
  inferInstanceAs (TransCmp (compareLex (compareOn ObjectKey.ns) (compareOn ObjectKey.name)))

theorem compare_eq_iff {a b : ObjectKey} : compare a b = .eq ↔ a = b := by
  show compareLex (compareOn ObjectKey.ns) (compareOn ObjectKey.name) a b = .eq ↔ a = b
  rw [compareLex_eq_eq]
  constructor
  · rintro ⟨hn, hm⟩
    cases a; cases b
    simp_all [compareOn]
  · rintro rfl
    simp [compareOn, ReflOrd.compare_self]

instance : LawfulEqOrd ObjectKey where
  eq_of_compare := compare_eq_iff.mp
  compare_self := compare_eq_iff.mpr rfl

/-- The text of a key: namespace, slash, name. -/
def render (k : ObjectKey) : String := k.ns ++ "/" ++ k.name

instance : ToString ObjectKey := ⟨render⟩

end ObjectKey

end BrokerFleet
