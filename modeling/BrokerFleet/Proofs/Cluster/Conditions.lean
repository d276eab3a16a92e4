import BrokerFleet.Condition
import Mathlib.Data.List.Nodup
import Mathlib.Data.List.Perm.Subperm

/-! # Conditions in lists

Installing a condition touches the first one of its type and nothing else, and leaves a list alone
that holds it already. Whether all conditions but `Ready` hold, and which of them do not, does not
depend on any time, and neither does whether two lists are the same. -/

namespace BrokerFleet.Condition

variable {c d : Condition} {cs ds es : List Condition} {t now now' : String}

/-! ## Installing -/

/-- A condition without the time of its last change. -/
def untimed (c : Condition) : Condition := { c with lastTransitionTime := none }

theorem type_of_untimed (h : c.untimed = d.untimed) : c.type = d.type := by
  change c.untimed.type = d.untimed.type
  rw [h]

theorem isTrue_of_untimed (h : c.untimed = d.untimed) : c.isTrue = d.isTrue := by
  change c.untimed.isTrue = d.untimed.isTrue
  rw [h]

/-- A condition as it is installed in the place of another of its type, if there is one. -/
def dated (c : Condition) : Option Condition → Condition
  | some d => if d.status = c.status then { c with lastTransitionTime := d.lastTransitionTime }
    else c
  | none => c

@[simp] theorem untimed_dated (c : Condition) (o : Option Condition) :
    (c.dated o).untimed = c.untimed := by
  cases o with
  | none => rfl
  | some d =>
    by_cases hstatus : d.status = c.status
    · simp [dated, hstatus, untimed]
    · simp [dated, hstatus]

@[simp] theorem status_dated (c : Condition) (o : Option Condition) :
    (c.dated o).status = c.status := by
  change (c.dated o).untimed.status = c.untimed.status
  rw [untimed_dated]

@[simp] theorem generation_dated (c : Condition) (o : Option Condition) :
    (c.dated o).observedGeneration = c.observedGeneration := by
  change (c.dated o).untimed.observedGeneration = c.untimed.observedGeneration
  rw [untimed_dated]

theorem time_dated_of_eq (hstatus : d.status = c.status) :
    (c.dated (some d)).lastTransitionTime = d.lastTransitionTime := by
  simp [dated, hstatus]

theorem dated_of_ne (hstatus : d.status ≠ c.status) : c.dated (some d) = c := if_neg hstatus

theorem find?_install_self (c : Condition) (cs : List Condition) :
    find? c.type (c.install cs) = some (c.dated (find? c.type cs)) := by
  induction cs with
  | nil => simp [install, find?, dated]
  | cons d rest ih =>
    by_cases htype : d.type = c.type
    · by_cases hstatus : d.status = c.status <;> simp [install, find?, dated, htype, hstatus]
    · simpa [install, find?, htype] using ih

/-- What is installed is found, but for the time. -/
theorem find?_install (cs : List Condition) (ht : c.type = t) :
    ∃ e, find? t (c.install cs) = some e ∧ e.untimed = c.untimed :=
  ⟨c.dated (find? c.type cs), ht ▸ find?_install_self c cs, untimed_dated c _⟩

theorem find?_install_of_ne (cs : List Condition) (h : t ≠ c.type) :
    find? t (c.install cs) = find? t cs := by
  have hc : (c.type == t) = false := by simpa using h.symm
  induction cs with
  | nil => simp [install, find?, hc]
  | cons d rest ih =>
    unfold find? at ih ⊢
    by_cases htype : d.type = c.type
    · by_cases hstatus : d.status = c.status <;> simp [install, htype, hstatus, hc]
    · simp only [install, htype, if_false, List.find?_cons, ih]

theorem map_type_install (c : Condition) (cs : List Condition) :
    (c.install cs).map type =
      if c.type ∈ cs.map type then cs.map type else cs.map type ++ [c.type] := by
  induction cs with
  | nil => rfl
  | cons d rest ih =>
    by_cases htype : d.type = c.type
    · by_cases hstatus : d.status = c.status <;> simp [install, htype, hstatus]
    · have hne : c.type ≠ d.type := Ne.symm htype
      by_cases hmem : c.type ∈ rest.map type
      · rw [if_pos hmem] at ih
        simp [install, htype, ih, hmem]
      · rw [if_neg hmem] at ih
        simp [install, htype, ih, hmem, hne]

theorem mem_map_type_install : t ∈ (c.install cs).map type ↔ t = c.type ∨ t ∈ cs.map type := by
  rw [map_type_install]
  split
  · next hmem =>
    constructor
    · exact .inr
    · rintro (rfl | ht)
      · exact hmem
      · exact ht
  · simp [or_comm]

theorem nodup_map_type_install (h : (cs.map type).Nodup) : ((c.install cs).map type).Nodup := by
  rw [map_type_install]
  split
  · exact h
  · next hmem => exact h.append (List.nodup_singleton _) (by simpa using hmem)

/-! ## What is not met -/

/-- The types of the conditions but `Ready` that do not hold. -/
def unmet (cs : List Condition) : List String :=
  (cs.filter fun c => c.type != ready && !c.isTrue).map type

theorem unmet_eq_nil_iff : unmet cs = [] ↔ ∀ c ∈ cs, c.type ≠ ready → c.isTrue = true := by
  simp [unmet, List.filter_eq_nil_iff]

theorem isTrue_aggregate : (aggregate now cs).isTrue = true ↔ unmet cs = [] := by
  unfold aggregate
  split
  · next hnone => exact iff_of_true rfl hnone
  · next hsome => exact iff_of_false (by simp [stated, isTrue]) hsome

@[simp] theorem type_aggregate (now : String) (cs : List Condition) :
    (aggregate now cs).type = ready := by
  unfold aggregate
  split <;> rfl

@[simp] theorem time_aggregate (now : String) (cs : List Condition) :
    (aggregate now cs).lastTransitionTime = some now := by
  unfold aggregate
  split <;> rfl

/-- Installing `Ready` changes nothing about what is not met. -/
theorem unmet_install_ready (hc : c.type = ready) (cs : List Condition) :
    unmet (c.install cs) = unmet cs := by
  induction cs with
  | nil => simp [install, unmet, hc]
  | cons d rest ih =>
    unfold unmet at ih ⊢
    by_cases htype : d.type = c.type
    · have hd : d.type = ready := htype.trans hc
      by_cases hstatus : d.status = c.status <;> simp [install, hc, hd, hstatus]
    · simp only [install, htype, if_false, List.filter_cons]
      split
      · rw [List.map_cons, List.map_cons, ih]
      · exact ih

theorem of_find?_eq_some (h : find? t cs = some c) : c ∈ cs ∧ c.type = t := by
  obtain ⟨htype, -⟩ := List.find?_eq_some_iff_append.mp h
  exact ⟨List.mem_of_find?_eq_some h, by simpa using htype⟩

/-! ## Without times -/

/-- A condition that a list holds, times apart, is not installed once more. -/
theorem install_eq_self (h : find? c.type cs = some d) (hd : d.untimed = c.untimed) :
    c.install cs = cs := by
  induction cs with
  | nil => cases h
  | cons e rest ih =>
    by_cases htype : e.type = c.type
    · obtain rfl : e = d := by simpa [find?, htype] using h
      obtain ⟨eType, eStatus, eReason, eMessage, eGeneration, eTime⟩ := e
      obtain ⟨cType, cStatus, cReason, cMessage, cGeneration, cTime⟩ := c
      simp only [untimed, Condition.mk.injEq, and_true] at hd
      obtain ⟨rfl, rfl, rfl, rfl, rfl⟩ := hd
      simp [install]
    · have hrest : find? c.type rest = some d := by simpa [find?, htype] using h
      simp [install, htype, ih hrest]

theorem map_untimed_install (c : Condition) (cs : List Condition) :
    (c.install cs).map untimed = c.untimed.install (cs.map untimed) := by
  induction cs with
  | nil => rfl
  | cons d rest ih =>
    by_cases htype : d.type = c.type
    · by_cases hstatus : d.status = c.status <;> simp [install, untimed, htype, hstatus]
    · have hne : d.untimed.type ≠ c.untimed.type := htype
      simp [install, htype, hne, ih]

theorem unmet_map_untimed (cs : List Condition) : unmet (cs.map untimed) = unmet cs := by
  simp [unmet, List.filter_map, Function.comp_def, untimed, isTrue]

/-- What is aggregated is told by what is not met. -/
theorem untimed_aggregate (h : unmet cs = unmet ds) :
    (aggregate now cs).untimed = (aggregate now' ds).untimed := by
  unfold unmet at h
  unfold aggregate
  simp only [h]
  generalize (ds.filter fun c => c.type != ready && !c.isTrue).map type = missing
  cases missing <;> rfl

theorem find?_map_untimed (t : String) (cs : List Condition) :
    find? t (cs.map untimed) = (find? t cs).map untimed := by
  simp [find?, List.find?_map, Function.comp_def, untimed]

/-! ## Sameness -/

theorem elim_sameAs_untimed (c : Condition) (o : Option Condition) :
    (o.map untimed).elim false c.sameAs = o.elim false c.sameAs := by
  cases o <;> rfl

/-- Times do not tell two lists apart. -/
theorem allSame_congr (cs : List Condition) (h : ds.map untimed = es.map untimed) :
    allSame cs ds = allSame cs es := by
  have hlength : ds.length = es.length := by simpa using congrArg List.length h
  have hfound : ∀ c : Condition,
      (find? c.type ds).elim false c.sameAs = (find? c.type es).elim false c.sameAs := by
    intro c
    rw [← elim_sameAs_untimed, ← find?_map_untimed, h, find?_map_untimed, elim_sameAs_untimed]
  simp only [allSame, hlength, hfound]

theorem find?_of_mem (hnodup : (cs.map type).Nodup) (hc : c ∈ cs) : find? c.type cs = some c := by
  induction cs with
  | nil => cases hc
  | cons d rest ih =>
    obtain ⟨hd, hrest⟩ := List.nodup_cons.mp hnodup
    rcases List.mem_cons.mp hc with rfl | hc
    · simp [find?]
    · have hne : d.type ≠ c.type := fun h => hd (h ▸ List.mem_map_of_mem hc)
      simpa [find?, hne] using ih hrest hc

/-- A list without two conditions of a type is the same as itself. -/
theorem allSame_self (hnodup : (cs.map type).Nodup) : allSame cs cs = true := by
  rw [allSame, Bool.and_eq_true]
  refine ⟨by simp, List.all_eq_true.mpr fun c hc => ?_⟩
  rw [find?_of_mem hnodup hc]
  simp [sameAs]

/-- What a condition says, apart from its generation and its time. -/
def content (c : Condition) : String × Holds × String × String :=
  (c.type, c.status, c.reason, c.message)

theorem sameAs_iff_content : c.sameAs d = true ↔ c.content = d.content := by
  simp [sameAs, content, and_assoc]

theorem map_type_eq (cs : List Condition) : cs.map type = (cs.map content).map Prod.fst := by
  rw [List.map_map]
  rfl

/-- What is the same as another list says nothing that the other does not say. -/
theorem subset_of_allSame (hsame : allSame cs ds = true) : cs.map content ⊆ ds.map content := by
  rw [allSame, Bool.and_eq_true, List.all_eq_true] at hsame
  intro said hsaid
  obtain ⟨c, hc, rfl⟩ := List.mem_map.mp hsaid
  have hfound := hsame.2 c hc
  cases hd : find? c.type ds with
  | none => simp [hd] at hfound
  | some d =>
    rw [hd] at hfound
    rw [sameAs_iff_content.mp hfound]
    exact List.mem_map_of_mem (of_find?_eq_some hd).1

/-- A list that is the same as another, and has no two conditions of a type, says all that the other
says. -/
theorem perm_content_of_allSame (hnodup : (cs.map type).Nodup) (hsame : allSame cs ds = true) :
    (cs.map content).Perm (ds.map content) := by
  have hlength : (ds.map content).length ≤ (cs.map content).length := by
    rw [allSame, Bool.and_eq_true, beq_iff_eq] at hsame
    simpa using Nat.le_of_eq hsame.1.symm
  have hcontents : (cs.map content).Nodup := by
    rw [map_type_eq] at hnodup
    exact hnodup.of_map Prod.fst
  exact (List.subperm_of_subset hcontents (subset_of_allSame hsame)).perm_of_length_le hlength

theorem perm_of_allSame (hnodup : (cs.map type).Nodup) (hsame : allSame cs ds = true) :
    (cs.map type).Perm (ds.map type) := by
  rw [map_type_eq, map_type_eq]
  exact (perm_content_of_allSame hnodup hsame).map Prod.fst

end BrokerFleet.Condition
