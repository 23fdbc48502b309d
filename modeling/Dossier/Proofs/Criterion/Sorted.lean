import Dossier.Criterion.Choices
import Mathlib.Data.List.Pairwise

/-!
# Choices sorted by label

Sorting puts choices in the order of the collation keys of their labels, those without a label last.
It loses and adds none, and choices under one key stay in the order they had.
-/

set_option autoImplicit false

namespace Dossier

namespace Choice

/-- The key a choice is sorted under; none without a label. -/
def sortKey (c : Choice) : Option String := c.label.map Text.collationKey

/-- The keys are in order; a choice without a label stands after all that have one. -/
def NotAfter (a b : Choice) : Prop :=
  match a.sortKey, b.sortKey with
  | _, none => True
  | none, some _ => False
  | some s, some t => s ≤ t

structure Sorts (items sorted : List Choice) : Prop where
  perm : sorted.Perm items
  ordered : sorted.Pairwise NotAfter
  stable : ∀ key, sorted.filter (·.sortKey = key) = items.filter (·.sortKey = key)

theorem orderOf_ne_gt {s t : String} : (Value.orderOf s t != .gt) = true ↔ s ≤ t := by
  rw [← String.not_lt, Value.orderOf]
  by_cases hlt : s < t
  · simp [hlt, String.lt_asymm hlt]
  · by_cases hgt : t < s <;> simp [hlt, hgt]

theorem labelOrder_ne_gt {a b : Choice} : (a.labelOrder b != .gt) = true ↔ a.NotAfter b := by
  unfold labelOrder NotAfter sortKey
  cases a.label <;> cases b.label
  case some.some => exact orderOf_ne_gt
  all_goals simp

theorem NotAfter.trans {a b c : Choice} (hab : a.NotAfter b) (hbc : b.NotAfter c) :
    a.NotAfter c := by
  unfold NotAfter at *
  cases ha : a.sortKey <;> cases hb : b.sortKey <;> cases hc : c.sortKey <;>
    simp only [ha, hb, hc] at hab hbc ⊢
  exact String.le_trans hab hbc

theorem NotAfter.total (a b : Choice) : a.NotAfter b ∨ b.NotAfter a := by
  unfold NotAfter
  cases a.sortKey <;> cases b.sortKey
  case some.some s t => exact String.le_total s t
  all_goals simp

theorem NotAfter.of_key {a b : Choice} (hkey : a.sortKey = b.sortKey) : a.NotAfter b := by
  unfold NotAfter
  rw [hkey]
  cases b.sortKey with
  | none => trivial
  | some s => exact String.le_refl s

theorem sortByLabel_sorts (items : List Choice) : Sorts items (sortByLabel items) := by
  have trans (a b c : Choice) (hab : (a.labelOrder b != .gt) = true)
      (hbc : (b.labelOrder c != .gt) = true) : (a.labelOrder c != .gt) = true :=
    labelOrder_ne_gt.mpr ((labelOrder_ne_gt.mp hab).trans (labelOrder_ne_gt.mp hbc))
  have total (a b : Choice) : ((a.labelOrder b != .gt) || (b.labelOrder a != .gt)) = true := by
    rw [Bool.or_eq_true, labelOrder_ne_gt, labelOrder_ne_gt]
    exact NotAfter.total a b
  have hperm : (sortByLabel items).Perm items := List.mergeSort_perm _ _
  refine ⟨hperm, ?_, fun key => ?_⟩
  · exact (List.pairwise_mergeSort trans total items).imp labelOrder_ne_gt.mp
  · -- the choices under one key are in order already, so sorting keeps them as a sublist
    have hordered : (items.filter (·.sortKey = key)).Pairwise
        fun a b => (a.labelOrder b != .gt) = true := by
      refine List.pairwise_of_forall_mem_list fun a ha b hb => ?_
      have hka : a.sortKey = key := by simpa using (List.mem_filter.mp ha).2
      have hkb : b.sortKey = key := by simpa using (List.mem_filter.mp hb).2
      exact labelOrder_ne_gt.mpr (.of_key (hka.trans hkb.symm))
    have hkept : (items.filter (·.sortKey = key)).Sublist (sortByLabel items) :=
      List.sublist_mergeSort trans total hordered List.filter_sublist
    have hfiltered := hkept.filter fun c => decide (c.sortKey = key)
    rw [List.filter_filter] at hfiltered
    simp only [Bool.and_self] at hfiltered
    exact (hfiltered.eq_of_length (hperm.filter _).length_eq.symm).symm

end Choice

end Dossier
