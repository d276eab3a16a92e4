import BrokerFleet.Proofs.Dict.Lookup
import BrokerFleet.Proofs.Json.ReadBack
import BrokerFleet.Json.Decoder

/-! # Records that are read back

A decoder takes back what a writer wrote if it takes back what was written of every field. For each
way in which a field is written, always, as null or not at all, there is a way in which it is asked
for. -/

namespace BrokerFleet.Json

variable {α : Type} {d : Decoder α} {f : α → Json} {key k : String} {v : Json} {o : Option Json}
  {fields : List (String × Json)} {given : List (String × Option Json)} {keys : List String}
    {least depth : Nat}

/-! ## Values of a field -/

@[simp] theorem valuesOf_obj_nil : valuesOf key (obj []) = [] := rfl

@[simp] theorem valuesOf_obj_cons : valuesOf key (obj ((k, v) :: fields)) =
    if k = key then v :: valuesOf key (obj fields) else valuesOf key (obj fields) := by
  by_cases hk : k = key <;> simp [valuesOf, hk]

@[simp] theorem valuesOf_present_nil : valuesOf key (present []) = [] := rfl

@[simp] theorem valuesOf_present_cons : valuesOf key (present ((k, o) :: given)) =
    if k = key then o.toList ++ valuesOf key (present given) else valuesOf key (present given) := by
  cases o <;> by_cases hk : k = key <;> simp [valuesOf, present, hk]

theorem valuesOf_eq_nil (hkey : key ∉ given.map Prod.fst) : valuesOf key (present given) = [] := by
  induction given with
  | nil => rfl
  | cons e given ih =>
    rw [List.map_cons, List.mem_cons, not_or] at hkey
    rw [valuesOf_present_cons, if_neg (Ne.symm hkey.1), ih hkey.2]

/-- A field whose name is given once has the value that is given, if one is. -/
theorem valuesOf_present (hnodup : (given.map Prod.fst).Nodup)
    (hgiven : given.lookup key = some o) :
    valuesOf key (present given) = o.toList := by
  induction given with
  | nil => cases hgiven
  | cons e given ih =>
    obtain ⟨k, o'⟩ := e
    rw [List.map_cons, List.nodup_cons] at hnodup
    rw [valuesOf_present_cons]
    by_cases hk : k = key
    · subst hk
      rw [List.lookup_cons_self] at hgiven
      cases hgiven
      rw [if_pos rfl, valuesOf_eq_nil hnodup.1, List.append_nil]
    · rw [List.lookup_cons, beq_false_of_ne (Ne.symm hk)] at hgiven
      rw [if_neg hk, ih hnodup.2 hgiven]

theorem obj_eq_present (fields : List (String × Json)) :
    obj fields = present (fields.map fun e => (e.1, some e.2)) := by
  rw [present, List.filterMap_map]
  exact congrArg obj List.filterMap_some.symm

theorem length_valuesOf_le (hnodup : (given.map Prod.fst).Nodup) (key : String) :
    (valuesOf key (present given)).length ≤ 1 := by
  induction given with
  | nil => exact Nat.zero_le 1
  | cons e given ih =>
    rw [List.map_cons, List.nodup_cons] at hnodup
    rw [valuesOf_present_cons]
    split
    · next hkey =>
      rw [valuesOf_eq_nil (hkey ▸ hnodup.1), List.append_nil]
      cases e.2 <;> simp
    · exact ih hnodup.2

/-! ## Records -/

/-- An object that gives every field once is a record, whatever fields are asked for. -/
theorem record_present (hnodup : (given.map Prod.fst).Nodup) :
    record keys least (present given) = some (present given) := by
  have honce : (keys.all fun k => (valuesOf k (present given)).length ≤ 1) = true :=
    List.all_eq_true.mpr fun k _ => decide_eq_true (length_valuesOf_le hnodup k)
  exact if_pos honce

theorem record_obj (hnodup : (fields.map Prod.fst).Nodup) :
    record keys least (obj fields) = some (obj fields) := by
  rw [obj_eq_present]
  exact record_present (by simpa [Function.comp_def] using hnodup)

/-- A decoder that takes back what was written, and finds nothing in null. -/
structure Reads (d : Decoder α) (f : α → Json) : Prop where
  null : d null = none
  read : ∀ a, d (f a) = some a

/-! ## Parts without fields -/

theorem reads_bool : Reads asBool bool := ⟨rfl, fun _ => rfl⟩

theorem reads_str : Reads asStr str := ⟨rfl, fun _ => rfl⟩

theorem reads_int32 : Reads asInt32 fun n => int n.toInt where
  null := rfl
  read n := by
    have hlow := n.le_toInt
    have hhigh := n.toInt_lt
    rw [asInt32, if_pos ⟨by omega, by omega⟩, Int32.ofInt_toInt]

theorem reads_int64 : Reads asInt64 fun n => int n.toInt where
  null := rfl
  read n := by
    have hlow := n.le_toInt
    have hhigh := n.toInt_lt
    rw [asInt64, if_pos ⟨by omega, by omega⟩, Int64.ofInt_toInt]

theorem Reads.listOf (hreads : Reads d f) : Reads (Json.listOf d) fun as => arr (as.map f) where
  null := rfl
  read as := by
    show all d (as.map f) = some as
    induction as with
    | nil => rfl
    | cons a as ih => simp [all, hreads.read, ih]

theorem reads_texts : Reads texts ofTexts where
  null := rfl
  read t := by
    have hall (l : List (String × String)) :
        allFields asStr (l.map fun e => (e.1, str e.2)) = some l := by
      induction l with
      | nil => rfl
      | cons e l ih => simp [allFields, reads_str.read, ih]
    show (allFields asStr (t.entries.map fun e => (e.1, str e.2))).map Dict.ofList = some t
    rw [hall, Option.map_some, Dict.ofList_entries]

namespace Reads

variable (hreads : Reads d f)

include hreads

theorem nullable_read (a : α) : nullable d (f a) = some (some a) := by
  unfold nullable
  split
  · next hnull =>
    have hread := hreads.read a
    rw [hnull, hreads.null] at hread
    cases hread
  · rw [hreads.read]
    rfl

theorem nullable_orNull (a : Option α) : nullable d (orNull (a.map f)) = some a := by
  cases a with
  | none => rfl
  | some a => exact hreads.nullable_read a

/-- A setting that is written only if it is there. -/
theorem optional_present {a : Option α} (hnodup : (given.map Prod.fst).Nodup)
    (hgiven : given.lookup key = some (a.map f)) : optional d key (present given) = some a := by
  rw [optional, last?, valuesOf_present hnodup hgiven]
  cases a with
  | none => rfl
  | some a => simp [all, hreads.nullable_read]

end Reads

/-! ## What a document carries -/

theorem carried_obj : Carried (depth + 1) (obj fields) ↔ ∀ e ∈ fields, Carried depth e.2 :=
  ⟨fun | .obj hfields => hfields, .obj⟩

theorem carried_present :
    Carried (depth + 1) (present given) ↔ ∀ e ∈ given, ∀ v ∈ e.2, Carried depth v := by
  rw [present, carried_obj]
  constructor
  · intro h e he v hv
    exact h (e.1, v) (List.mem_filterMap.mpr ⟨e, he, by simp [show e.2 = some v from hv]⟩)
  · intro h e he
    obtain ⟨e', he', hmap⟩ := List.mem_filterMap.mp he
    obtain ⟨v, hv, rfl⟩ := Option.map_eq_some_iff.mp hmap
    exact h e' he' v hv

theorem carried_int {n : Int} (hlow : -9223372036854775808 ≤ n) (hhigh : n < 9223372036854775808) :
    Carried depth (int n) := by
  refine .int ?_
  simp only [inRange, Bool.and_eq_true, decide_eq_true_eq]
  omega

theorem carried_int32 (n : Int32) : Carried depth (int n.toInt) :=
  carried_int (by have := n.le_toInt; omega) (by have := n.toInt_lt; omega)

theorem carried_int64 (n : Int64) : Carried depth (int n.toInt) :=
  carried_int n.le_toInt n.toInt_lt

theorem carried_map (hf : ∀ a, Carried depth (f a)) (as : List α) :
    Carried (depth + 1) (arr (as.map f)) := by
  refine .arr fun v hv => ?_
  obtain ⟨a, -, rfl⟩ := List.mem_map.mp hv
  exact hf a

theorem carried_strs (items : List String) : Carried (depth + 1) (strs items) :=
  carried_map .str items

theorem carried_orNull (hf : ∀ a, Carried depth (f a)) (a : Option α) :
    Carried depth (orNull (a.map f)) := by
  cases a with
  | none => exact .null
  | some a => exact hf a

theorem carried_setting (hf : ∀ a, Carried depth (f a)) (a : Option α) :
    ∀ v ∈ a.map f, Carried depth v := by
  intro v hv
  obtain ⟨a, -, rfl⟩ := Option.map_eq_some_iff.mp hv
  exact hf a

theorem carried_optStr (s : Option String) : Carried depth (optStr s) := carried_orNull .str s

theorem carried_ofTexts (t : Dict String String) : Carried (depth + 1) (ofTexts t) := by
  refine .obj fun e he => ?_
  obtain ⟨e', -, rfl⟩ := List.mem_map.mp he
  exact .str e'.2

/-- What a document carries is taken back off its text as it is off the value. -/
theorem Reads.document (hreads : Reads d f) (hcarried : ∀ a, Carried depthLimit (f a)) (a : α) :
    d (f a) = some a ∧ (parseSound? (f a).render).bind d = some a := by
  rw [parseSound?_render (hcarried a)]
  exact ⟨hreads.read a, hreads.read a⟩

end BrokerFleet.Json
