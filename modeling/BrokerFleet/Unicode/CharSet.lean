/-! # Sets of characters

A set is held as the increasing list of code points at which membership changes, beginning outside.
Every operation of two sets is one walk along both lists; `contains_combine` says that it acts
member by member. -/

namespace BrokerFleet

namespace Flips

/-- Whether a code point is inside, by whether the first one is and where this changes. -/
def inside : Bool → List Nat → Nat → Bool
  | p, [], _ => p
  | p, a :: rest, n => if n < a then p else inside (!p) rest n

/-- A change at a point, noted only where something changes. -/
def note (before after : Bool) (n : Nat) (rest : List Nat) : List Nat :=
  if before = after then rest else n :: rest

/-- The changes of an operation on two memberships. -/
def combine (f : Bool → Bool → Bool) (p q : Bool) : List Nat → List Nat → List Nat
  | [], [] => []
  | a :: as, [] => note (f p q) (f (!p) q) a (combine f (!p) q as [])
  | [], b :: bs => note (f p q) (f p (!q)) b (combine f p (!q) [] bs)
  | a :: as, b :: bs =>
    if a < b then note (f p q) (f (!p) q) a (combine f (!p) q as (b :: bs))
    else if b < a then note (f p q) (f p (!q)) b (combine f p (!q) (a :: as) bs)
    else note (f p q) (f (!p) (!q)) a (combine f (!p) (!q) as bs)
  termination_by xs ys => xs.length + ys.length

theorem mem_note {before after : Bool} {n x : Nat} {rest : List Nat}
    (h : x ∈ note before after n rest) : x = n ∨ x ∈ rest := by
  unfold note at h
  split at h
  · exact .inr h
  · exact List.mem_cons.mp h

theorem mem_combine {f : Bool → Bool → Bool} {p q : Bool} {xs ys : List Nat} {x : Nat}
    (h : x ∈ combine f p q xs ys) : x ∈ xs ∨ x ∈ ys := by
  fun_induction combine f p q xs ys with
  | case1 => exact .inl h
  | case2 p q a as ih =>
    rcases mem_note h with rfl | h
    · simp
    · rcases ih h with h | h <;> simp [h]
  | case3 p q b bs ih =>
    rcases mem_note h with rfl | h
    · simp
    · rcases ih h with h | h <;> simp_all
  | case4 p q a as b bs _ ih =>
    rcases mem_note h with rfl | h
    · simp
    · rcases ih h with h | h <;> simp_all
  | case5 p q a as b bs _ _ ih =>
    rcases mem_note h with rfl | h
    · simp
    · rcases ih h with h | h <;> simp_all
  | case6 p q a as b bs _ _ ih =>
    rcases mem_note h with rfl | h
    · simp
    · rcases ih h with h | h <;> simp_all

theorem pairwise_note {before after : Bool} {n : Nat} {rest : List Nat}
    (hn : ∀ x ∈ rest, n < x) (h : rest.Pairwise (· < ·)) :
    (note before after n rest).Pairwise (· < ·) := by
  unfold note
  split
  · exact h
  · exact List.pairwise_cons.mpr ⟨hn, h⟩

theorem pairwise_combine (f : Bool → Bool → Bool) (p q : Bool) {xs ys : List Nat}
    (hx : xs.Pairwise (· < ·)) (hy : ys.Pairwise (· < ·)) :
    (combine f p q xs ys).Pairwise (· < ·) := by
  fun_induction combine f p q xs ys with
  | case1 => exact .nil
  | case2 p q a as ih =>
    have ⟨ha, has⟩ := List.pairwise_cons.mp hx
    refine pairwise_note (fun x hm => ?_) (ih has hy)
    rcases mem_combine hm with h | h
    · exact ha x h
    · simp at h
  | case3 p q b bs ih =>
    have ⟨hb, hbs⟩ := List.pairwise_cons.mp hy
    refine pairwise_note (fun x hm => ?_) (ih hx hbs)
    rcases mem_combine hm with h | h
    · simp at h
    · exact hb x h
  | case4 p q a as b bs hab ih =>
    have ⟨ha, has⟩ := List.pairwise_cons.mp hx
    have ⟨hb, _⟩ := List.pairwise_cons.mp hy
    refine pairwise_note (fun x hm => ?_) (ih has hy)
    rcases mem_combine hm with h | h
    · exact ha x h
    · rcases List.mem_cons.mp h with rfl | h
      · exact hab
      · exact Nat.lt_trans hab (hb x h)
  | case5 p q a as b bs _ hba ih =>
    have ⟨ha, _⟩ := List.pairwise_cons.mp hx
    have ⟨hb, hbs⟩ := List.pairwise_cons.mp hy
    refine pairwise_note (fun x hm => ?_) (ih hx hbs)
    rcases mem_combine hm with h | h
    · rcases List.mem_cons.mp h with rfl | h
      · exact hba
      · exact Nat.lt_trans hba (ha x h)
    · exact hb x h
  | case6 p q a as b bs hab hba ih =>
    have ⟨ha, has⟩ := List.pairwise_cons.mp hx
    have ⟨hb, hbs⟩ := List.pairwise_cons.mp hy
    have : a = b := by omega
    subst this
    refine pairwise_note (fun x hm => ?_) (ih has hbs)
    rcases mem_combine hm with h | h
    · exact ha x h
    · exact hb x h

theorem inside_of_lt {p : Bool} {xs : List Nat} {n : Nat} (h : ∀ x ∈ xs, n < x) :
    inside p xs n = p := by
  cases xs with
  | nil => rfl
  | cons a as => simp [inside, h a List.mem_cons_self]

theorem inside_note {before after : Bool} {m n : Nat} {rest : List Nat} (h : ∀ x ∈ rest, m < x) :
    inside before (note before after m rest) n = if n < m then before else inside after rest n := by
  unfold note
  by_cases hba : before = after
  · subst hba
    by_cases hn : n < m
    · simp [hn, inside_of_lt fun x hx => Nat.lt_trans hn (h x hx)]
    · simp [hn]
  · have : (!before) = after := by cases before <;> cases after <;> simp_all
    simp [hba, inside, this]

theorem inside_combine (f : Bool → Bool → Bool) (p q : Bool) {xs ys : List Nat} (n : Nat)
    (hx : xs.Pairwise (· < ·)) (hy : ys.Pairwise (· < ·)) :
    inside (f p q) (combine f p q xs ys) n = f (inside p xs n) (inside q ys n) := by
  fun_induction combine f p q xs ys with
  | case1 => rfl
  | case2 p q a as ih =>
    have ⟨ha, has⟩ := List.pairwise_cons.mp hx
    rw [inside_note fun x hm => (mem_combine hm).elim (ha x) (by simp), ih has hy]
    by_cases hn : n < a <;> simp [inside, hn]
  | case3 p q b bs ih =>
    have ⟨hb, hbs⟩ := List.pairwise_cons.mp hy
    rw [inside_note fun x hm => (mem_combine hm).elim (by simp) (hb x), ih hx hbs]
    by_cases hn : n < b <;> simp [inside, hn]
  | case4 p q a as b bs hab ih =>
    have ⟨ha, has⟩ := List.pairwise_cons.mp hx
    have ⟨hb, _⟩ := List.pairwise_cons.mp hy
    have hall : ∀ x ∈ b :: bs, a < x := fun x h =>
      (List.mem_cons.mp h).elim (fun e => e ▸ hab) fun h => Nat.lt_trans hab (hb x h)
    rw [inside_note fun x hm => (mem_combine hm).elim (ha x) (hall x), ih has hy]
    by_cases hn : n < a
    · simp [inside, hn, Nat.lt_trans hn hab]
    · simp [inside, hn]
  | case5 p q a as b bs _ hba ih =>
    have ⟨ha, _⟩ := List.pairwise_cons.mp hx
    have ⟨hb, hbs⟩ := List.pairwise_cons.mp hy
    have hall : ∀ x ∈ a :: as, b < x := fun x h =>
      (List.mem_cons.mp h).elim (fun e => e ▸ hba) fun h => Nat.lt_trans hba (ha x h)
    rw [inside_note fun x hm => (mem_combine hm).elim (hall x) (hb x), ih hx hbs]
    by_cases hn : n < b
    · simp [inside, hn, Nat.lt_trans hn hba]
    · simp [inside, hn]
  | case6 p q a as b bs hab hba ih =>
    have ⟨ha, has⟩ := List.pairwise_cons.mp hx
    have ⟨hb, hbs⟩ := List.pairwise_cons.mp hy
    have : a = b := by omega
    subst this
    rw [inside_note fun x hm => (mem_combine hm).elim (ha x) (hb x), ih has hbs]
    by_cases hn : n < a <;> simp [inside, hn]

end Flips

structure CharSet where
  flips : List Nat
  increasing : flips.Pairwise (· < ·)

namespace CharSet

def contains (s : CharSet) (c : Char) : Bool := Flips.inside false s.flips c.toNat

/-- The set whose members an operation picks by their membership in two sets; nothing that is in
neither is picked. -/
def combine (f : Bool → Bool → Bool) (s t : CharSet) : CharSet :=
  ⟨Flips.combine f false false s.flips t.flips,
    Flips.pairwise_combine f _ _ s.increasing t.increasing⟩

theorem contains_combine {f : Bool → Bool → Bool} (hf : f false false = false) (s t : CharSet)
    (c : Char) : (combine f s t).contains c = f (s.contains c) (t.contains c) := by
  have := Flips.inside_combine f false false c.toNat s.increasing t.increasing
  rwa [hf] at this

def empty : CharSet := ⟨[], .nil⟩

instance : Inhabited CharSet := ⟨empty⟩

theorem pairwise_pair {a b : Nat} (h : a < b) : [a, b].Pairwise (· < ·) := by
  simpa using h

/-- The code points from one to another; none if they are the wrong way round. -/
def ofRange (low high : Nat) : CharSet :=
  if h : low ≤ high then ⟨[low, high + 1], pairwise_pair (Nat.lt_succ_of_le h)⟩ else empty

def union (s t : CharSet) : CharSet := combine or s t

def inter (s t : CharSet) : CharSet := combine and s t

def diff (s t : CharSet) : CharSet := combine (fun a b => a && !b) s t

/-- The characters that are in exactly one of two sets. -/
def symmDiff (s t : CharSet) : CharSet := combine xor s t

def all : CharSet := ofRange 0 0x10FFFF

def compl (s : CharSet) : CharSet := all.diff s

def single (c : Char) : CharSet := ofRange c.toNat c.toNat

def ofRanges (ranges : List (Nat × Nat)) : CharSet :=
  ranges.foldr (fun r s => (ofRange r.1 r.2).union s) empty

def isEmpty (s : CharSet) : Bool := s.flips.isEmpty

/-- The first and last code points of the runs of neighbours in a list of changes. -/
def runsOf : List Nat → List (Nat × Nat)
  | a :: b :: rest => (a, b - 1) :: runsOf rest
  | _ => []

/-- The ranges that a set consists of, in increasing order. -/
def ranges (s : CharSet) : List (Nat × Nat) := runsOf s.flips

theorem contains_union (s t : CharSet) (c : Char) :
    (s.union t).contains c = (s.contains c || t.contains c) :=
  contains_combine rfl s t c

theorem contains_inter (s t : CharSet) (c : Char) :
    (s.inter t).contains c = (s.contains c && t.contains c) :=
  contains_combine rfl s t c

theorem contains_diff (s t : CharSet) (c : Char) :
    (s.diff t).contains c = (s.contains c && !t.contains c) :=
  contains_combine rfl s t c

theorem contains_all (c : Char) : all.contains c = true := by
  have : c.toNat < 0x110000 := by
    have h : c.toNat.isValidChar := c.valid
    unfold Nat.isValidChar at h
    omega
  simp [all, ofRange, contains, Flips.inside, this]

theorem contains_compl (s : CharSet) (c : Char) : s.compl.contains c = !s.contains c := by
  simp [compl, contains_diff, contains_all]

end CharSet

end BrokerFleet
