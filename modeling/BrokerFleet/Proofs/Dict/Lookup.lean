import BrokerFleet.Dict

/-! # Entries, keys and look-up

A dictionary whose keys compare equal only when they are equal lists an entry exactly when looking
up its key finds its value. -/

namespace BrokerFleet.Dict

open Std

variable {κ ν : Type} [Ord κ] [LawfulEqOrd κ]

/-! ## What is listed -/

theorem find?_eq_some {k : κ} {v : ν} {l : List (κ × ν)} (h : find? k l = some v) : (k, v) ∈ l := by
  induction l with
  | nil => cases h
  | cons e rest ih =>
    unfold find? at h
    split at h
    · next hk =>
      obtain rfl := Std.compare_eq_iff_eq.mp hk
      cases h
      exact List.mem_cons_self
    · exact List.mem_cons_of_mem _ (ih h)

theorem find?_of_mem {k : κ} {v : ν} {l : List (κ × ν)}
    (hl : l.Pairwise fun a b => compare a.1 b.1 = .lt) (h : (k, v) ∈ l) : find? k l = some v := by
  induction l with
  | nil => cases h
  | cons e rest ih =>
    have ⟨he, hrest⟩ := List.pairwise_cons.mp hl
    rcases List.mem_cons.mp h with rfl | h
    · simp [find?]
    · have hne : compare k e.1 ≠ .eq := by
        intro hk
        have hlt : compare e.1 k = .lt := he (k, v) h
        rw [Std.compare_eq_iff_eq.mp hk, compare_self] at hlt
        cases hlt
      rw [find?, if_neg hne]
      exact ih hrest h

theorem mem_entries_iff {d : Dict κ ν} {k : κ} {v : ν} : (k, v) ∈ d.entries ↔ d.get? k = some v :=
  ⟨find?_of_mem d.ordered, find?_eq_some⟩

theorem mem_keys_iff {d : Dict κ ν} {k : κ} : k ∈ d.keys ↔ (d.get? k).isSome := by
  simp only [keys, List.mem_map, Option.isSome_iff_exists]
  constructor
  · rintro ⟨⟨k, v⟩, h, rfl⟩
    exact ⟨v, mem_entries_iff.mp h⟩
  · rintro ⟨v, h⟩
    exact ⟨(k, v), mem_entries_iff.mpr h, rfl⟩

theorem isEmpty_iff {d : Dict κ ν} : d.isEmpty ↔ ∀ k, d.get? k = none := by
  rw [isEmpty, List.isEmpty_iff]
  constructor
  · intro h k
    simp [get?, h, find?]
  · intro h
    rw [List.eq_nil_iff_forall_not_mem]
    rintro ⟨k, v⟩ hm
    rw [mem_entries_iff, h k] at hm
    cases hm

theorem get?_filter (d : Dict κ ν) (p : κ → ν → Bool) (k : κ) :
    (d.filter p).get? k = (d.get? k).filter (p k) := by
  ext v
  rw [← mem_entries_iff, Option.filter_eq_some_iff, ← mem_entries_iff]
  exact List.mem_filter

/-- Dictionaries are told apart by what is found under their keys. -/
theorem eq_of_get?_eq [TransOrd κ] {d e : Dict κ ν} (h : ∀ k, d.get? k = e.get? k) : d = e := by
  have hne (a b : κ × ν) (hab : compare a.1 b.1 = .lt) : a ≠ b := by
    rintro rfl
    rw [compare_self] at hab
    cases hab
  have hmem (x : κ × ν) : x ∈ d.entries ↔ x ∈ e.entries := by
    rw [mem_entries_iff, mem_entries_iff, h]
  have hperm : d.entries.Perm e.entries :=
    (List.perm_ext_iff_of_nodup (d.ordered.imp (hne _ _)) (e.ordered.imp (hne _ _))).mpr hmem
  refine Dict.ext (hperm.eq_of_pairwise (fun a b _ _ hab hba => ?_) d.ordered e.ordered)
  rw [OrientedCmp.gt_of_lt hab] at hba
  cases hba

theorem nodup_keys (d : Dict κ ν) : (d.entries.map Prod.fst).Nodup := by
  refine List.pairwise_map.mpr (d.ordered.imp fun hlt heq => ?_)
  rw [heq, compare_self] at hlt
  cases hlt

/-! ## What a change leaves -/

omit [LawfulEqOrd κ] in
theorem filter_ne_of_lt {k : κ} {l : List (κ × ν)} (h : ∀ e ∈ l, compare k e.1 = .lt) :
    (l.filter fun e => compare k e.1 != .eq) = l :=
  List.filter_eq_self.mpr fun e he => by simp [h e he]

theorem erase_of_get?_eq_none {d : Dict κ ν} {k : κ} (h : d.get? k = none) : d.erase k = d := by
  refine Dict.ext (List.filter_eq_self.mpr fun e he => ?_)
  have hne : compare k e.1 ≠ .eq := by
    intro hk
    rw [Std.compare_eq_iff_eq.mp hk, mem_entries_iff.mp he] at h
    cases h
  simpa using hne

variable [TransOrd κ]

@[simp] theorem get?_insert_self (d : Dict κ ν) (k : κ) (v : ν) :
    (d.insert k v).get? k = some v := by
  simp [get?_insert]

theorem get?_insert_of_ne (d : Dict κ ν) {k a : κ} (v : ν) (h : a ≠ k) :
    (d.insert k v).get? a = d.get? a := by
  rw [get?_insert, if_neg]
  rwa [Std.compare_eq_iff_eq]

theorem contains_insert (d : Dict κ ν) {k a : κ} (v : ν) :
    (d.insert k v).contains a = true ↔ a = k ∨ d.contains a = true := by
  unfold contains
  by_cases h : a = k
  · simp [h]
  · simp [h, get?_insert_of_ne d v h]

theorem put_of_find? {k : κ} {v : ν} {l : List (κ × ν)}
    (hl : l.Pairwise fun a b => compare a.1 b.1 = .lt) (h : find? k l = some v) :
    put k v l = l := by
  induction l with
  | nil => cases h
  | cons e rest ih =>
    have ⟨he, hrest⟩ := List.pairwise_cons.mp hl
    unfold find? at h
    split at h
    · next hk =>
      obtain rfl := Std.compare_eq_iff_eq.mp hk
      cases h
      simp [put]
    · next hk =>
      -- the entry looked for stands further on, so its key comes after the first
      have hgt : compare k e.1 = .gt := OrientedCmp.gt_iff_lt.mpr (he _ (find?_eq_some h))
      simp [put, hgt, ih hrest h]

theorem insert_of_get? {d : Dict κ ν} {k : κ} {v : ν} (h : d.get? k = some v) : d.insert k v = d :=
  Dict.ext (put_of_find? d.ordered h)

@[simp] theorem get?_erase_self (d : Dict κ ν) (k : κ) : (d.erase k).get? k = none := by
  simp [get?_erase]

theorem get?_erase_of_ne (d : Dict κ ν) {k a : κ} (h : a ≠ k) : (d.erase k).get? a = d.get? a := by
  rw [get?_erase, if_neg]
  rw [Std.compare_eq_iff_eq]
  exact h.symm

/-- The first entry that passes a test is the one of the least key among those that pass. -/
theorem find?_entries_eq_some {d : Dict κ ν} {p : κ × ν → Bool} {k : κ} {v : ν} :
    d.entries.find? p = some (k, v) ↔
      d.get? k = some v ∧ p (k, v) = true ∧
        ∀ k' v', compare k' k = .lt → d.get? k' = some v' → p (k', v') = false := by
  rw [List.find?_eq_some_iff_append, ← mem_entries_iff]
  constructor
  · rintro ⟨hp, before, after, hentries, hbefore⟩
    refine ⟨hentries ▸ List.mem_append_right _ List.mem_cons_self, hp, fun k' v' hlt hfound => ?_⟩
    have hordered := hentries ▸ d.ordered
    obtain ⟨hafter, -⟩ := List.pairwise_cons.mp (List.pairwise_append.mp hordered).2.1
    rw [← mem_entries_iff, hentries, List.mem_append, List.mem_cons] at hfound
    rcases hfound with hmem | heq | hmem
    · simpa using hbefore _ hmem
    · obtain ⟨rfl, rfl⟩ := Prod.mk.inj heq
      simp [compare_self] at hlt
    · -- what stands behind an entry has a greater key
      have hgt := hafter _ hmem
      rw [OrientedCmp.gt_of_lt hlt] at hgt
      cases hgt
  · rintro ⟨hmem, hp, hleast⟩
    obtain ⟨before, after, hentries⟩ := List.append_of_mem hmem
    refine ⟨hp, before, after, hentries, fun e he => ?_⟩
    have hordered := hentries ▸ d.ordered
    have hlt := (List.pairwise_append.mp hordered).2.2 e he _ List.mem_cons_self
    have hfound : d.get? e.1 = some e.2 := mem_entries_iff.mp (hentries ▸ List.mem_append_left _ he)
    simp [hleast e.1 e.2 hlt hfound]

theorem mem_entries_foldl_insert {l : List (κ × ν)} (hl : (l.map Prod.fst).Nodup) {d : Dict κ ν}
    {k : κ} {v : ν} :
    (k, v) ∈ (l.foldl (fun d e => d.insert e.1 e.2) d).entries ↔
      (k, v) ∈ l ∨ k ∉ l.map Prod.fst ∧ (k, v) ∈ d.entries := by
  induction l generalizing d with
  | nil => simp
  | cons e rest ih =>
    obtain ⟨k', v'⟩ := e
    obtain ⟨hfresh, hrest⟩ := List.nodup_cons.mp hl
    rw [List.foldl_cons, ih hrest, mem_entries_iff, mem_entries_iff, List.mem_cons, List.map_cons,
      List.mem_cons, not_or]
    by_cases hk : k = k'
    · subst hk
      have hnew : (k, v) ∉ rest := fun hmem => hfresh (List.mem_map.mpr ⟨_, hmem, rfl⟩)
      simpa [hnew, hfresh] using eq_comm
    · simp [hk, get?_insert_of_ne d v' hk]

/-- A dictionary has the entries of the list that it is made of, if no key stands there twice. -/
theorem mem_entries_ofList {l : List (κ × ν)} (hl : (l.map Prod.fst).Nodup) {k : κ} {v : ν} :
    (k, v) ∈ (ofList l).entries ↔ (k, v) ∈ l :=
  (mem_entries_foldl_insert hl).trans (or_iff_left fun h => List.not_mem_nil h.2)

theorem ofList_entries (d : Dict κ ν) : ofList d.entries = d := by
  refine eq_of_get?_eq fun k => Option.ext fun v => ?_
  rw [← mem_entries_iff, mem_entries_ofList d.nodup_keys, mem_entries_iff]

omit [LawfulEqOrd κ] in
/-- Every key has a place among the entries: an entry is added there, and taken out from there. -/
theorem exists_place (k : κ) {l : List (κ × ν)}
    (hl : l.Pairwise fun a b => compare a.1 b.1 = .lt) :
    ∃ before after, (∀ v, put k v l = before ++ (k, v) :: after) ∧
      (l.filter fun e => compare k e.1 != .eq) = before ++ after := by
  induction l with
  | nil => exact ⟨[], [], fun _ => rfl, rfl⟩
  | cons e rest ih =>
    have ⟨he, hrest⟩ := List.pairwise_cons.mp hl
    cases hk : compare k e.1 with
    | lt =>
      have hlt : ∀ x ∈ e :: rest, compare k x.1 = .lt :=
        List.forall_mem_cons.mpr ⟨hk, fun x hx => TransCmp.lt_trans hk (he x hx)⟩
      exact ⟨[], e :: rest, fun v => by simp [put, hk], filter_ne_of_lt hlt⟩
    | eq =>
      have hlt : ∀ x ∈ rest, compare k x.1 = .lt := fun x hx => TransCmp.lt_of_eq_of_lt hk (he x hx)
      exact ⟨[], rest, fun v => by simp [put, hk], by simp [hk, filter_ne_of_lt hlt]⟩
    | gt =>
      obtain ⟨before, after, hput, herase⟩ := ih hrest
      exact ⟨e :: before, after, fun v => by simp [put, hk, hput], by simp [hk, herase]⟩

omit [LawfulEqOrd κ] in
theorem exists_entries (d : Dict κ ν) (k : κ) :
    ∃ before after, (∀ v, (d.insert k v).entries = before ++ (k, v) :: after) ∧
      (d.erase k).entries = before ++ after :=
  exists_place k d.ordered

end BrokerFleet.Dict
