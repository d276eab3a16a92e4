/-! # Dictionaries in key order

A dictionary is a list of entries whose keys strictly increase, so equal dictionaries have equal
entry lists and every listing comes out in key order. The lookup laws `get?_insert` and
`get?_erase` describe each operation through `get?`. -/

namespace BrokerFleet

open Std

/-- A finite map held as a list of entries in strictly increasing key order. -/
structure Dict (κ ν : Type) [Ord κ] where
  entries : List (κ × ν)
  ordered : entries.Pairwise fun a b => compare a.1 b.1 = .lt

namespace Dict

variable {κ ν : Type} [Ord κ]

@[ext] theorem ext {d e : Dict κ ν} (h : d.entries = e.entries) : d = e := by
  cases d; cases e; cases h; rfl

instance [DecidableEq κ] [DecidableEq ν] : DecidableEq (Dict κ ν) := fun d e =>
  if h : d.entries = e.entries then isTrue (ext h) else isFalse fun he => h (he ▸ rfl)

/-! ## Entry lists -/

/-- The first entry under a key. -/
def find? (k : κ) : List (κ × ν) → Option ν
  | [] => none
  | e :: rest => if compare k e.1 = .eq then some e.2 else find? k rest

/-- An ordered entry list with one entry added or replaced. -/
def put (k : κ) (v : ν) : List (κ × ν) → List (κ × ν)
  | [] => [(k, v)]
  | e :: rest =>
    match compare k e.1 with
    | .lt => (k, v) :: e :: rest
    | .eq => (k, v) :: rest
    | .gt => e :: put k v rest

theorem mem_put {k : κ} {v : ν} {l : List (κ × ν)} {x : κ × ν} (h : x ∈ put k v l) :
    x = (k, v) ∨ x ∈ l := by
  induction l with
  | nil => exact .inl (by simpa [put] using h)
  | cons e rest ih =>
    unfold put at h
    split at h
    · rcases List.mem_cons.mp h with h | h
      · exact .inl h
      · exact .inr h
    · rcases List.mem_cons.mp h with h | h
      · exact .inl h
      · exact .inr (List.mem_cons_of_mem _ h)
    · rcases List.mem_cons.mp h with h | h
      · exact .inr (h ▸ List.mem_cons_self)
      · rcases ih h with h | h
        · exact .inl h
        · exact .inr (List.mem_cons_of_mem _ h)

theorem pairwise_put [TransOrd κ] (k : κ) (v : ν) {l : List (κ × ν)}
    (h : l.Pairwise fun a b => compare a.1 b.1 = .lt) :
    (put k v l).Pairwise fun a b => compare a.1 b.1 = .lt := by
  induction l with
  | nil => simp [put]
  | cons e rest ih =>
    have ⟨he, hrest⟩ := List.pairwise_cons.mp h
    unfold put
    split
    · next hc =>
      refine List.pairwise_cons.mpr ⟨fun x hx => ?_, h⟩
      rcases List.mem_cons.mp hx with rfl | hx
      · exact hc
      · exact TransCmp.lt_trans hc (he x hx)
    · next hc =>
      refine List.pairwise_cons.mpr ⟨fun x hx => ?_, hrest⟩
      exact (TransCmp.congr_left hc).trans (he x hx)
    · next hc =>
      refine List.pairwise_cons.mpr ⟨fun x hx => ?_, ih hrest⟩
      rcases mem_put hx with rfl | hx
      · exact OrientedCmp.gt_iff_lt.mp hc
      · exact he x hx

/-! ## Operations -/

def empty : Dict κ ν := ⟨[], .nil⟩

instance : Inhabited (Dict κ ν) := ⟨empty⟩
instance : EmptyCollection (Dict κ ν) := ⟨empty⟩

/-- The value under a key, if there is one. -/
def get? (d : Dict κ ν) (k : κ) : Option ν := find? k d.entries

def contains (d : Dict κ ν) (k : κ) : Bool := (d.get? k).isSome

/-- Adds an entry, replacing one of the same key. -/
def insert [TransOrd κ] (d : Dict κ ν) (k : κ) (v : ν) : Dict κ ν :=
  ⟨put k v d.entries, pairwise_put k v d.ordered⟩

def filter (d : Dict κ ν) (p : κ → ν → Bool) : Dict κ ν :=
  ⟨d.entries.filter fun e => p e.1 e.2, d.ordered.filter _⟩

/-- Removes the entry of a key, if there is one. -/
def erase (d : Dict κ ν) (k : κ) : Dict κ ν :=
  d.filter fun k' _ => compare k k' != .eq

/-- Replaces every value by a function of its key and itself. -/
def map {ω : Type} (d : Dict κ ν) (f : κ → ν → ω) : Dict κ ω :=
  ⟨d.entries.map fun e => (e.1, f e.1 e.2), by
    simpa [List.pairwise_map] using d.ordered⟩

/-- The dictionary of a list of entries, a later entry winning over an earlier one of its key. -/
def ofList [TransOrd κ] (l : List (κ × ν)) : Dict κ ν :=
  l.foldl (fun d e => d.insert e.1 e.2) empty

/-- The keys in increasing order. -/
def keys (d : Dict κ ν) : List κ := d.entries.map (·.1)

/-- The values in the order of their keys. -/
def values (d : Dict κ ν) : List ν := d.entries.map (·.2)

def size (d : Dict κ ν) : Nat := d.entries.length

def isEmpty (d : Dict κ ν) : Bool := d.entries.isEmpty

/-! ## Lookup laws -/

@[simp] theorem get?_empty (k : κ) : (empty : Dict κ ν).get? k = none := rfl

theorem find?_put [TransOrd κ] (k a : κ) (v : ν) {l : List (κ × ν)}
    (h : l.Pairwise fun a b => compare a.1 b.1 = .lt) :
    find? a (put k v l) = if compare a k = .eq then some v else find? a l := by
  induction l with
  | nil => rfl
  | cons e rest ih =>
    have ⟨he, hrest⟩ := List.pairwise_cons.mp h
    unfold put
    split
    · rfl
    · next hc =>
      have hk : compare a k = compare a e.1 := TransCmp.congr_right hc
      simp only [find?, hk]
      split <;> rfl
    · next hc =>
      simp only [find?, ih hrest]
      by_cases hae : compare a e.1 = .eq
      · have : compare a k ≠ .eq := by
          rw [TransCmp.congr_left hae, OrientedCmp.gt_iff_lt.mp hc]
          decide
        simp [hae, this]
      · simp [hae]

theorem get?_insert [TransOrd κ] (d : Dict κ ν) (k a : κ) (v : ν) :
    (d.insert k v).get? a = if compare a k = .eq then some v else d.get? a :=
  find?_put k a v d.ordered

theorem find?_filter_ne [TransOrd κ] (k a : κ) (l : List (κ × ν)) :
    find? a (l.filter fun e => compare k e.1 != .eq) =
      if compare k a = .eq then none else find? a l := by
  induction l with
  | nil => simp [find?]
  | cons e rest ih =>
    by_cases hk : compare k e.1 = .eq
    · have : compare a e.1 = .eq ↔ compare k a = .eq := by
        rw [← TransCmp.congr_right hk, OrientedCmp.eq_comm]
      by_cases ha : compare k a = .eq
      · simp [hk, ih, ha]
      · simp [hk, ih, ha, find?, this]
    · by_cases ha : compare a e.1 = .eq
      · have : compare k a ≠ .eq := by rwa [TransCmp.congr_right ha]
        simp [hk, find?, ha, this]
      · simp [hk, find?, ha, ih]

theorem get?_erase [TransOrd κ] (d : Dict κ ν) (k a : κ) :
    (d.erase k).get? a = if compare k a = .eq then none else d.get? a :=
  find?_filter_ne k a d.entries

end Dict

end BrokerFleet
