import BrokerFleet.Json.Order
import BrokerFleet.Proofs.Dict.Lookup

/-! # Merging a patch into a document

A patch that is an object is merged into a value field by field, those that are null being removed;
any other patch takes the place of the value. What is written of a type takes the place of what was
written of it before, if every field is always written and never as null, at every level outside of
lists. -/

namespace BrokerFleet.Json

variable {α β : Type} {f : α → Json} {key : String} {v old : Json}
  {fields patch : List (String × Json)}

/-! ## Merging -/

/-- The fields of an object; nothing else has any. -/
def fieldsOf : Json → List (String × Json)
  | obj fields => fields
  | _ => []

/-- Fields with a new value of the given name behind the others, or with none of that name. -/
def setField (key : String) (v : Option Json) (fields : List (String × Json)) :
    List (String × Json) :=
  (fields.filter fun e => e.1 ≠ key) ++ (v.map (key, ·)).toList

mutual

/-- A value with a patch merged into it. -/
def merge : Json → Json → Json
  | old, obj patch => obj (mergeFields old.fieldsOf patch)
  | _, v => v

/-- Fields with those of a patch merged into them, one after another. -/
def mergeFields : List (String × Json) → List (String × Json) → List (String × Json)
  | fields, [] => fields
  | fields, (key, null) :: rest => mergeFields (setField key none fields) rest
  | fields, (key, v) :: rest =>
    mergeFields (setField key (some (merge (orNull (field? key fields)) v)) fields) rest

end

@[simp] theorem merge_obj : merge old (obj patch) = obj (mergeFields old.fieldsOf patch) := rfl

@[simp] theorem mergeFields_nil : mergeFields fields [] = fields := rfl

theorem mergeFields_cons (hv : v ≠ null) (rest : List (String × Json)) :
    mergeFields fields ((key, v) :: rest) =
      mergeFields (setField key (some (merge (orNull (field? key fields)) v)) fields) rest := by
  cases v with
  | null => exact absurd rfl hv
  | _ => rfl

-- what a patch leaves out stays, and what it gives as null goes
example : merge (obj [("a", int 1), ("b", int 2)]) (obj [("b", null), ("c", obj [("d", null)])]) =
    obj [("a", int 1), ("c", obj [])] := rfl

/-! ## Looking up a field -/

theorem field?_fieldsOf (v : Json) (key : String) : field? key v.fieldsOf = v.get? key := by
  cases v <;> rfl

theorem field?_append (key : String) (xs ys : List (String × Json)) :
    field? key (xs ++ ys) = (field? key ys).or (field? key xs) := by
  induction xs with
  | nil => simp [field?]
  | cons e xs ih =>
    rw [List.cons_append, field?, field?, ih, Option.or_assoc]

theorem field?_eq_none_iff : field? key fields = none ↔ key ∉ fields.map Prod.fst := by
  induction fields with
  | nil => simp [field?]
  | cons e fields ih =>
    rw [field?, Option.or_eq_none_iff, ih, List.map_cons, List.mem_cons, not_or, and_comm]
    simp [eq_comm]

theorem field?_of_mem (hnodup : (fields.map Prod.fst).Nodup) (hmem : (key, v) ∈ fields) :
    field? key fields = some v := by
  induction fields with
  | nil => cases hmem
  | cons e fields ih =>
    rw [List.map_cons, List.nodup_cons] at hnodup
    rcases List.mem_cons.mp hmem with rfl | hmem
    · rw [field?, field?_eq_none_iff.mpr hnodup.1, if_pos rfl, Option.none_or]
    · rw [field?, ih hnodup.2 hmem, Option.some_or]

theorem field?_filter {p : String → Bool} (hkey : p key = true) (fields : List (String × Json)) :
    field? key (fields.filter fun e => p e.1) = field? key fields := by
  induction fields with
  | nil => rfl
  | cons e fields ih =>
    obtain ⟨k, v⟩ := e
    by_cases hk : k = key
    · subst hk
      simp [field?, hkey, ih]
    · cases hp : p k <;> simp [field?, hp, hk, ih]

theorem field?_setField_of_ne {k : String} (hne : k ≠ key) (o : Option Json) :
    field? k (setField key o fields) = field? k fields := by
  have hfilter : field? k (fields.filter fun e => e.1 ≠ key) = field? k fields :=
    field?_filter (p := fun name => name ≠ key) (by simpa using hne) fields
  rw [setField, field?_append, hfilter]
  cases o with
  | none => rfl
  | some v => simp [field?, Ne.symm hne]

theorem filter_setField {names : List String} (hkey : key ∉ names) (v : Json)
    (fields : List (String × Json)) :
    (setField key (some v) fields).filter (fun e => e.1 ∉ names) =
      (fields.filter fun e => e.1 ∉ key :: names) ++ [(key, v)] := by
  have hlast : [(key, v)].filter (fun e => e.1 ∉ names) = [(key, v)] := by simpa using hkey
  rw [setField, List.filter_append, List.filter_filter, Option.map_some, Option.toList_some, hlast]
  refine congrArg (· ++ [(key, v)]) (List.filter_congr fun e _ => Bool.eq_iff_iff.mpr ?_)
  rw [Bool.and_eq_true, decide_eq_true_iff, decide_eq_true_iff, decide_eq_true_iff, List.mem_cons,
    not_or, and_comm]

/-- A patch that gives each of its fields once, and none as null, brings these fields behind the
others: each with the value that stood there, into which the new one is merged. -/
theorem mergeFields_eq (hnodup : (patch.map Prod.fst).Nodup) (hnull : ∀ e ∈ patch, e.2 ≠ null)
    (fields : List (String × Json)) :
    mergeFields fields patch = (fields.filter fun e => e.1 ∉ patch.map Prod.fst) ++
      patch.map fun e => (e.1, merge (orNull (field? e.1 fields)) e.2) := by
  induction patch generalizing fields with
  | nil =>
    have hkept : (fields.filter fun e => e.1 ∉ ([] : List (String × Json)).map Prod.fst) = fields :=
      List.filter_eq_self.mpr fun e _ => by simp
    rw [hkept, mergeFields_nil, List.map_nil, List.append_nil]
  | cons e rest ih =>
    obtain ⟨key, v⟩ := e
    rw [List.map_cons, List.nodup_cons] at hnodup
    obtain ⟨hv, hrest⟩ := List.forall_mem_cons.mp hnull
    rw [mergeFields_cons hv, ih hnodup.2 hrest]
    -- the field just set is none of those that follow, which are looked up as before
    have hmerged : (rest.map fun e => (e.1, merge (orNull (field? e.1
        (setField key (some (merge (orNull (field? key fields)) v)) fields))) e.2)) =
        rest.map fun e => (e.1, merge (orNull (field? e.1 fields)) e.2) := by
      refine List.map_congr_left fun e he => ?_
      have hne : e.1 ≠ key := fun h => hnodup.1 (List.mem_map.mpr ⟨e, he, h⟩)
      rw [field?_setField_of_ne hne]
    rw [hmerged, filter_setField hnodup.1, List.append_assoc]
    rfl

/-- A field that a patch gives is merged into the one that was there. -/
theorem field?_mergeFields (hnodup : (patch.map Prod.fst).Nodup) (hnull : ∀ e ∈ patch, e.2 ≠ null)
    (hmem : (key, v) ∈ patch) :
    field? key (mergeFields fields patch) = some (merge (orNull (field? key fields)) v) := by
  have hmerged : field? key (patch.map fun e => (e.1, merge (orNull (field? e.1 fields)) e.2)) =
      some (merge (orNull (field? key fields)) v) :=
    field?_of_mem (by rwa [List.map_map]) (List.mem_map.mpr ⟨(key, v), hmem, rfl⟩)
  rw [mergeFields_eq hnodup hnull, field?_append, hmerged, Option.some_or]

/-- A field that a patch does not give stays. -/
theorem field?_mergeFields_of_notMem (hnodup : (patch.map Prod.fst).Nodup)
    (hnull : ∀ e ∈ patch, e.2 ≠ null) (hkey : key ∉ patch.map Prod.fst) :
    field? key (mergeFields fields patch) = field? key fields := by
  have hnone : field? key (patch.map fun e => (e.1, merge (orNull (field? e.1 fields)) e.2)) =
      none :=
    field?_eq_none_iff.mpr (by rwa [List.map_map])
  rw [mergeFields_eq hnodup hnull, field?_append, hnone, Option.none_or]
  exact field?_filter (p := fun name => name ∉ patch.map Prod.fst) (by simpa using hkey) fields

/-! ## The same value in another order -/

theorem get?_foldl_insert (d : Dict String Json) (k : String) :
    ((fieldsInOrder fields).foldl (fun d e => d.insert e.1 e.2) d).get? k =
      ((field? k fields).map inOrder).or (d.get? k) := by
  induction fields generalizing d with
  | nil => rfl
  | cons e rest ih =>
    obtain ⟨name, v⟩ := e
    rw [fieldsInOrder, List.foldl_cons, ih, field?]
    by_cases hname : name = k
    · subst hname
      cases field? name rest <;> simp
    · simp [hname, Dict.get?_insert_of_ne d (inOrder v) (Ne.symm hname)]

/-- Objects that are the same in order have the same fields in order. -/
theorem field?_of_inOrder_eq {gs : List (String × Json)}
    (h : (obj fields).inOrder = (obj gs).inOrder) (k : String) :
    (field? k fields).map inOrder = (field? k gs).map inOrder := by
  have hentries : (Dict.ofList (fieldsInOrder fields)).entries =
      (Dict.ofList (fieldsInOrder gs)).entries :=
    Json.obj.inj h
  have hfound := congrArg (Dict.get? · k) (Dict.ext hentries)
  simpa only [Dict.ofList, get?_foldl_insert, Dict.get?_empty, Option.or_none] using hfound

theorem eq_obj_of_inOrder_eq (h : v.inOrder = (obj fields).inOrder) : ∃ gs, v = obj gs := by
  cases v with
  | obj gs => exact ⟨gs, rfl⟩
  | _ => cases h

/-! ## Taking the place of what was written before -/

/-- What may have stood where a value is now merged in: nothing, null, or what was written of
something of the same type, in any order of the fields. -/
inductive Earlier (f : α → Json) : Option Json → Prop where
  | absent : Earlier f none
  | null : Earlier f (some null)
  | written (a : α) {v : Json} (h : v.inOrder = (f a).inOrder) : Earlier f (some v)

/-- What is written of a type is never null, and takes the place of what was written of it before
when it is merged into that. -/
structure Overwrites (f : α → Json) : Prop where
  ne_null : ∀ a, f a ≠ null
  merge_eq : ∀ {o : Option Json}, Earlier f o → ∀ a, merge (orNull o) (f a) = f a

theorem overwrites_str : Overwrites str := ⟨nofun, fun _ _ => rfl⟩

theorem overwrites_int : Overwrites int := ⟨nofun, fun _ _ => rfl⟩

/-- A list takes the place of a list, whatever its items. -/
theorem overwrites_arr : Overwrites arr := ⟨nofun, fun _ _ => rfl⟩

theorem Overwrites.comp (hf : Overwrites f) (g : β → α) : Overwrites fun b => f (g b) where
  ne_null b := hf.ne_null (g b)
  merge_eq ho b := by
    refine hf.merge_eq ?_ (g b)
    cases ho with
    | absent => exact .absent
    | null => exact .null
    | written b h => exact .written (g b) h

section Object

variable {writers : List (String × (α → Json))} {o : Option Json}

/-- The fields of an object, each written in its way. -/
def objOf (writers : List (String × (α → Json))) (a : α) : Json :=
  obj (writers.map fun e => (e.1, e.2 a))

theorem field?_objOf {w : String × (α → Json)} (hnodup : (writers.map Prod.fst).Nodup)
    (hw : w ∈ writers) (a : α) :
    field? w.1 (writers.map fun e => (e.1, e.2 a)) = some (w.2 a) := by
  refine field?_of_mem ?_ (List.mem_map.mpr ⟨w, hw, rfl⟩)
  rwa [List.map_map]

/-- Whatever stood in the place of an object had, under each of its names, what may have stood
there. -/
theorem Earlier.field? (hnodup : (writers.map Prod.fst).Nodup) (ho : Earlier (objOf writers) o)
    {w : String × (α → Json)} (hw : w ∈ writers) :
    Earlier w.2 (Json.field? w.1 (orNull o).fieldsOf) := by
  cases ho with
  | absent => exact .absent
  | null => exact .absent
  | written a h =>
    obtain ⟨gs, rfl⟩ := eq_obj_of_inOrder_eq h
    have hsame := field?_of_inOrder_eq h w.1
    rw [field?_objOf hnodup hw, Option.map_some] at hsame
    obtain ⟨v, hv, hv'⟩ := Option.map_eq_some_iff.mp hsame
    exact hv ▸ .written a hv'

/-- Whatever stood in the place of an object had no other names. -/
theorem Earlier.name_mem (ho : Earlier (objOf writers) o) {g : String × Json}
    (hg : g ∈ (orNull o).fieldsOf) :
    g.1 ∈ writers.map Prod.fst := by
  cases ho with
  | absent => cases hg
  | null => cases hg
  | written a h =>
    obtain ⟨gs, rfl⟩ := eq_obj_of_inOrder_eq h
    refine Decidable.byContradiction fun hother => ?_
    have hnone : Json.field? g.1 (writers.map fun e => (e.1, e.2 a)) = none :=
      field?_eq_none_iff.mpr (by rwa [List.map_map])
    have hsame := field?_of_inOrder_eq h g.1
    rw [hnone, Option.map_none, Option.map_eq_none_iff, field?_eq_none_iff] at hsame
    exact hsame (List.mem_map.mpr ⟨g, hg, rfl⟩)

/-- An object whose fields are always written takes the place of what was written before: no field
of it is left. -/
theorem overwrites_objOf (hnodup : (writers.map Prod.fst).Nodup)
    (hwriters : ∀ w ∈ writers, Overwrites w.2) :
    Overwrites (objOf writers) where
  ne_null _ := nofun
  merge_eq {o} ho a := by
    have hnames : (writers.map fun e => (e.1, e.2 a)).map Prod.fst = writers.map Prod.fst :=
      List.map_map
    have hnull : ∀ e ∈ writers.map fun e => (e.1, e.2 a), e.2 ≠ Json.null := by
      intro e he
      obtain ⟨w, hw, rfl⟩ := List.mem_map.mp he
      exact (hwriters w hw).ne_null a
    have hleft : ((orNull o).fieldsOf.filter fun e => e.1 ∉ writers.map Prod.fst) = [] :=
      List.filter_eq_nil_iff.mpr fun g hg => by simpa using ho.name_mem hg
    rw [objOf, merge_obj, mergeFields_eq (hnames ▸ hnodup) hnull, hnames, hleft,
      List.nil_append, List.map_map]
    refine congrArg obj (List.map_congr_left fun w hw => ?_)
    exact congrArg (Prod.mk w.1) ((hwriters w hw).merge_eq (ho.field? hnodup hw) a)

end Object

end BrokerFleet.Json
