import BrokerFleet.Text.Sorted
import Mathlib.Data.List.Nodup
import Mathlib.Data.String.Basic

/-! # Sorting by a text

Sorting keeps the order of items whose texts are the same. So the outcome is told by what stands
under each text, in its order, and by nothing else. -/

namespace BrokerFleet.Text

variable {α : Type} {key : α → String} {l l' : List α}

/-- Items in the order of their texts. -/
def sortedBy (key : α → String) (l : List α) : List α :=
  l.mergeSort fun a b => decide (key a ≤ key b)

/-- The items of a text, in their order. -/
def under (key : α → String) (k : String) (l : List α) : List α :=
  l.filter fun a => decide (key a = k)

theorem mem_under {a : α} {k : String} : a ∈ under key k l ↔ a ∈ l ∧ key a = k := by simp [under]

theorem under_append (k : String) (l l' : List α) :
    under key k (l ++ l') = under key k l ++ under key k l' :=
  List.filter_append l l'

theorem sortedBy_perm (key : α → String) (l : List α) : (sortedBy key l).Perm l :=
  List.mergeSort_perm ..

section Order

variable (key)

theorem keyed_trans (a b c : α) (hab : decide (key a ≤ key b) = true)
    (hbc : decide (key b ≤ key c) = true) :
    decide (key a ≤ key c) = true :=
  decide_eq_true ((of_decide_eq_true hab).trans (of_decide_eq_true hbc))

theorem keyed_total (a b : α) : (decide (key a ≤ key b) || decide (key b ≤ key a)) = true := by
  simpa using String.le_total (key a) (key b)

theorem pairwise_sortedBy (l : List α) : (sortedBy key l).Pairwise fun a b => key a ≤ key b :=
  (List.pairwise_mergeSort (keyed_trans key) (keyed_total key) l).imp of_decide_eq_true

/-- Sorting keeps the order of the items of a text. -/
theorem under_sortedBy (k : String) (l : List α) :
    under key k (sortedBy key l) = under key k l := by
  have hequal : (under key k l).Pairwise fun a b => decide (key a ≤ key b) = true := by
    refine List.pairwise_of_forall_mem_list fun a ha b hb => decide_eq_true (le_of_eq ?_)
    rw [(mem_under.mp ha).2, (mem_under.mp hb).2]
  have hsublist : (under key k l).Sublist (sortedBy key l) :=
    List.sublist_mergeSort (keyed_trans key) (keyed_total key) hequal List.filter_sublist
  have hunder : (under key k l).Sublist (under key k (sortedBy key l)) := by
    simpa [under] using hsublist.filter fun a => decide (key a = k)
  exact (hunder.eq_of_length ((sortedBy_perm key l).filter _).length_eq.symm).symm

end Order

theorem key_le_of_under {a b : α} (hsorted : (b :: l').Pairwise fun a b => key a ≤ key b)
    (hunder : under key (key a) (a :: l) = under key (key a) (b :: l')) : key b ≤ key a := by
  have ha : a ∈ b :: l' :=
    (mem_under.mp (hunder ▸ mem_under.mpr ⟨List.mem_cons_self, rfl⟩)).1
  rcases List.mem_cons.mp ha with rfl | ha
  · exact le_rfl
  · exact List.rel_of_pairwise_cons hsorted ha

/-- Lists in order are told by what stands under each text. -/
theorem eq_of_under_eq (hl : l.Pairwise fun a b => key a ≤ key b)
    (hl' : l'.Pairwise fun a b => key a ≤ key b) (hunder : ∀ k, under key k l = under key k l') :
    l = l' := by
  induction l generalizing l' with
  | nil =>
    refine (List.eq_nil_iff_forall_not_mem.mpr fun b hb => ?_).symm
    have hmem : b ∈ under key (key b) [] := hunder (key b) ▸ mem_under.mpr ⟨hb, rfl⟩
    exact nomatch hmem
  | cons a rest ih =>
    cases l' with
    | nil =>
      have hmem : a ∈ under key (key a) [] :=
        hunder (key a) ▸ mem_under.mpr ⟨List.mem_cons_self, rfl⟩
      exact nomatch hmem
    | cons b rest' =>
      -- each of the two first items is found in the other list, at its head or after it
      have hkey : key a = key b :=
        le_antisymm (key_le_of_under hl (hunder (key b)).symm)
          (key_le_of_under hl' (hunder (key a)))
      have hfirst : a = b ∧ under key (key a) rest = under key (key a) rest' := by
        simpa [under, hkey] using hunder (key a)
      obtain ⟨rfl, hrest⟩ := hfirst
      refine congrArg (a :: ·) (ih hl.tail hl'.tail fun k => ?_)
      by_cases hk : key a = k
      · exact hk ▸ hrest
      · simpa [under, hk] using hunder k

theorem sortedBy_eq_of_under_eq (hunder : ∀ k, under key k l = under key k l') :
    sortedBy key l = sortedBy key l' := by
  refine eq_of_under_eq (pairwise_sortedBy key l) (pairwise_sortedBy key l') fun k => ?_
  rw [under_sortedBy, under_sortedBy, hunder k]

theorem pairwise_sorted (texts : List String) : (sorted texts).Pairwise (· ≤ ·) :=
  pairwise_sortedBy id texts

/-- A list is the outcome of sorting another exactly if it is in order and holds the same texts as
often. -/
theorem eq_sorted_iff {texts texts' : List String} :
    texts = sorted texts' ↔ texts.Pairwise (· ≤ ·) ∧ texts.Perm texts' := by
  constructor
  · rintro rfl
    exact ⟨pairwise_sorted texts', sorted_perm texts'⟩
  · rintro ⟨hordered, hperm⟩
    refine List.Perm.eq_of_pairwise (fun a b _ _ => le_antisymm) hordered
      (pairwise_sorted texts') ?_
    exact hperm.trans (sorted_perm texts').symm

/-- Sorted texts do not show the order in which they were listed. -/
theorem sorted_eq_of_perm {texts texts' : List String} (h : texts.Perm texts') :
    sorted texts = sorted texts' := by
  have hunder (k : String) : under id k texts = under id k texts' := by
    simp only [under, id_eq, List.filter_eq, h.count_eq]
  exact sortedBy_eq_of_under_eq hunder

end BrokerFleet.Text
