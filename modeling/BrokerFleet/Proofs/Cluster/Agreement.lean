import BrokerFleet.Proofs.Cluster.Conditions
import Mathlib.Data.List.Perm.Basic

/-! # Conditions that agree

Two lists of conditions are compared by their lengths, and by the first condition of each type. For
lists without repeated types this is agreement one to one: the second list can be reordered so that
each condition agrees with the one across from it. -/

namespace BrokerFleet.Condition

variable {c d : Condition} {cs ds es : List Condition}

/-! ## The comparison -/

theorem allSame_of_perm (hds : (ds.map type).Nodup)
    (hperm : (cs.map content).Perm (ds.map content)) :
    allSame cs ds = true := by
  have hlength : cs.length = ds.length := by simpa using hperm.length_eq
  rw [allSame, hlength, beq_self_eq_true, Bool.true_and, List.all_eq_true]
  intro c hc
  obtain ⟨d, hd, hcontent⟩ := List.mem_map.mp (hperm.subset (List.mem_map_of_mem hc))
  -- no other condition of the type comes first
  have htype : c.type = d.type := congrArg Prod.fst hcontent.symm
  rw [htype, find?_of_mem hds hd]
  exact sameAs_iff_content.mpr hcontent.symm

/-- Lists without repeated types are the same exactly if they say the same, in whatever order. -/
theorem allSame_iff_perm (hcs : (cs.map type).Nodup) (hds : (ds.map type).Nodup) :
    allSame cs ds = true ↔ (cs.map content).Perm (ds.map content) :=
  ⟨perm_content_of_allSame hcs, allSame_of_perm hds⟩

theorem nodup_of_perm_content (hperm : (cs.map content).Perm (ds.map content))
    (hds : (ds.map type).Nodup) :
    (cs.map type).Nodup := by
  rw [map_type_eq] at hds ⊢
  exact (hperm.map Prod.fst).nodup_iff.mpr hds

/-! ## One to one -/

/-- Some order of the second list has, across from each condition of the first, one that agrees with
it. -/
def Matched (cs ds : List Condition) : Prop :=
  ∃ es, es.Perm ds ∧ List.Forall₂ (fun c e => c.sameAs e = true) cs es

theorem forall₂_sameAs_iff : List.Forall₂ (fun c e => c.sameAs e = true) cs es ↔
    cs.map content = es.map content := by
  simp only [sameAs_iff_content]
  rw [← List.forall₂_eq_eq_eq, List.forall₂_map_left_iff, List.forall₂_map_right_iff]

theorem matched_iff_perm : Matched cs ds ↔ (cs.map content).Perm (ds.map content) := by
  unfold Matched
  simp only [forall₂_sameAs_iff]
  constructor
  · rintro ⟨es, hperm, hsaid⟩
    rw [hsaid]
    exact hperm.map content
  · intro hperm
    have hcomp : Relation.Comp (· = List.map content ·) List.Perm (cs.map content) ds := by
      rw [List.eq_map_comp_perm]
      exact hperm
    obtain ⟨es, hsaid, hes⟩ := hcomp
    exact ⟨es, hes, hsaid⟩

/-- On lists without repeated types the comparison is agreement one to one. So it is an equivalence,
and it does not change where lists are replaced by others that say the same, in another order, at
other times and for other generations. -/
theorem allSame_iff_matched (hcs : (cs.map type).Nodup) (hds : (ds.map type).Nodup)
    (hes : (es.map type).Nodup) :
    (allSame cs ds = true ↔ Matched cs ds) ∧
      allSame cs cs = true ∧ allSame cs ds = allSame ds cs ∧
      (allSame cs ds = true → allSame ds es = true → allSame cs es = true) ∧
      ∀ cs' ds', (cs'.map content).Perm (cs.map content) → (ds'.map content).Perm (ds.map content) →
        allSame cs' ds' = allSame cs ds := by
  refine ⟨?_, allSame_self hcs, ?_, ?_, ?_⟩
  · rw [allSame_iff_perm hcs hds, matched_iff_perm]
  · rw [Bool.eq_iff_iff, allSame_iff_perm hcs hds, allSame_iff_perm hds hcs]
    exact List.perm_comm
  · rw [allSame_iff_perm hcs hds, allSame_iff_perm hds hes, allSame_iff_perm hcs hes]
    exact List.Perm.trans
  · intro cs' ds' hcs' hds'
    have hnodup := nodup_of_perm_content hcs' hcs
    have hnodup' := nodup_of_perm_content hds' hds
    rw [Bool.eq_iff_iff, allSame_iff_perm hnodup hnodup', allSame_iff_perm hcs hds]
    constructor
    · exact fun hperm => hcs'.symm.trans (hperm.trans hds')
    · exact fun hperm => hcs'.trans (hperm.trans hds'.symm)

/-- Two conditions, and the same two in the other order, restated later for another generation. -/
theorem allSame_iff_matched_restated :
    let cs := [stated "09:00" valid .yes .validationSucceeded "",
      stated "09:00" ready .no .notReady "later"]
    let ds := [{ stated "09:05" ready .no .notReady "later" with observedGeneration := 2 },
      { stated "09:05" valid .yes .validationSucceeded "" with observedGeneration := 2 }]
    (cs.map type).Nodup ∧ (ds.map type).Nodup ∧ cs.map content ≠ ds.map content ∧ Matched cs ds ∧
      allSame ds cs = true := by
  intro cs ds
  have hcs : (cs.map type).Nodup := by decide
  have hds : (ds.map type).Nodup := by decide
  have hsame : allSame cs ds = true := by decide
  obtain ⟨hmatched, -, hsymm, -⟩ := allSame_iff_matched hcs hds hds
  exact ⟨hcs, hds, by decide, hmatched.mp hsame, hsymm ▸ hsame⟩

end BrokerFleet.Condition
