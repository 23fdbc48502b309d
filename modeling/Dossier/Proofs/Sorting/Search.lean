import Dossier.Sorting
import Mathlib.Tactic.Common

/-!
# Searching finds the place

The items that a question holds of stand before those that it does not hold of. A search that asks
only items from there finds the border, wherever it starts and however it strides: each answer tells
on which side of the border the item stands.
-/

set_option autoImplicit false

namespace Dossier.Sorting

variable {m : Type → Type} [Monad m] [LawfulMonad m] {α : Type}

/-! ## Borders -/

structure BorderAt (below : α → Bool) (items : List α) (k : ℕ) : Prop where
  within : k ≤ items.length
  before : ∀ x ∈ items.take k, below x = true
  behind : ∀ x ∈ items.drop k, below x = false

section Border

variable {below : α → Bool} {items : List α} {i k : ℕ} {x : α}

theorem BorderAt.below_eq (hborder : BorderAt below items k) (hx : items[i]? = some x) :
    below x = decide (i < k) := by
  by_cases hi : i < k
  · rw [decide_eq_true hi]
    apply hborder.before
    apply List.mem_of_getElem? (i := i)
    rw [List.getElem?_take_of_lt hi, hx]
  · rw [decide_eq_false hi]
    apply hborder.behind
    apply List.mem_of_getElem? (i := i - k)
    rw [List.getElem?_drop, Nat.add_sub_cancel' (Nat.le_of_not_lt hi), hx]

/-- Where the property passes from an item to all before it there is a border. -/
theorem exists_border (hitems : items.Pairwise fun x y => below y = true → below x = true) :
    ∃ k, BorderAt below items k := by
  induction items with
  | nil => exact ⟨0, by simp, by simp, by simp⟩
  | cons x rest ih =>
    rw [List.pairwise_cons] at hitems
    by_cases hx : below x = true
    · obtain ⟨k, hk⟩ := ih hitems.2
      exact ⟨k + 1, by simpa using hk.within, by simpa [hx]
        using hk.before, by simpa using hk.behind⟩
    · have hnone : ∀ y ∈ x :: rest, below y = false := by
        intro y hy
        rw [← Bool.not_eq_true]
        intro hbelow
        rcases List.mem_cons.mp hy with rfl | hrest
        · exact hx hbelow
        · exact hx (hitems.1 y hrest hbelow)
      exact ⟨0, by simp, by simp, by simpa using hnone⟩

/-- Seen from the end, the items without the property come first. -/
theorem BorderAt.reverse (hborder : BorderAt below items k) :
    BorderAt (fun x => !below x) items.reverse (items.length - k) := by
  have hwithin := hborder.within
  have hcut : items.length - (items.length - k) = k := by omega
  constructor
  · simp
  · intro x hx
    rw [List.take_reverse, hcut, List.mem_reverse] at hx
    rw [hborder.behind x hx, Bool.not_false]
  · intro x hx
    rw [List.drop_reverse, hcut, List.mem_reverse] at hx
    rw [hborder.before x hx, Bool.not_true]

end Border

/-! ## Halving -/

section Search

variable {below : α → m Bool} {b : α → Bool} {items : List α} {k : ℕ}

theorem halve_eq (hbelow : ∀ x ∈ items, below x = pure (b x)) (hborder : BorderAt b items k)
    {fuel low high : ℕ} (hlow : low ≤ k) (hhigh : k ≤ high) (hwithin : high ≤ items.length)
    (hfuel : high - low ≤ fuel) : halve below items.toArray fuel low high = pure k := by
  induction fuel generalizing low high with
  | zero =>
    have hk : low = k := by omega
    rw [halve, hk]
  | succ fuel ih =>
    rw [halve]
    by_cases hlt : low < high
    · have hmiddle : low + (high - low) / 2 < items.length := by omega
      have hitem := List.getElem?_eq_getElem hmiddle
      have hanswer := hbelow _ (List.getElem_mem hmiddle)
      rw [hborder.below_eq hitem] at hanswer
      simp only [if_pos hlt, List.getElem?_toArray, hitem, hanswer, pure_bind, decide_eq_true_eq]
      -- the item in the middle stands on one side of the border, so the border is in the other half
      by_cases hside : low + (high - low) / 2 < k
      · rw [if_pos hside]
        apply ih <;> omega
      · rw [if_neg hside]
        apply ih <;> omega
    · have hk : low = k := by omega
      rw [if_neg hlt, hk]

/-! ## Strides -/

/-- A stride ends between an index that passes and one that does not, or at the limit. Each stride
is longer than the one before, so the fuel suffices. -/
theorem stride_ends {passes : ℕ → m Bool} {p : ℕ → Prop} [DecidablePred p] {limit : ℕ}
    (hpasses : ∀ i < limit, passes i = pure (decide (p i))) (fuel : ℕ) {last next : ℕ}
    (hstep : last < next) (hlimit : last < limit) (hlast : p last) (hfuel : limit ≤ next + fuel) :
    ∃ l n, stride passes limit fuel last next = pure (l, n) ∧ l < n ∧ n ≤ limit ∧ p l ∧
      (n = limit ∨ ¬ p n) := by
  induction fuel generalizing last next with
  | zero =>
    refine ⟨last, min next limit, rfl, by omega, by omega, hlast, ?_⟩
    left
    omega
  | succ fuel ih =>
    rw [stride]
    by_cases hnext : next < limit
    · simp only [if_pos hnext, hpasses next hnext, pure_bind, decide_eq_true_eq]
      by_cases hpass : p next
      · rw [if_pos hpass]
        exact ih (by omega) hnext hpass (by omega)
      · rw [if_neg hpass]
        exact ⟨last, next, rfl, hstep, by omega, hlast, .inr hpass⟩
    · rw [if_neg hnext]
      exact ⟨last, limit, rfl, hlimit, by omega, hlast, .inl rfl⟩

def answeredAs (below : α → m Bool) (items : Array α) (wanted : Bool) (i : ℕ) : m Bool :=
  match items[i]? with
  | none => pure false
  | some x => (· == wanted) <$> below x

omit [LawfulMonad m] in
theorem gallop_start {items : Array α} {start : ℕ} {x : α} (hx : items[start]? = some x) :
    gallop below items start = below x >>= fun isBelow =>
      if isBelow then
        stride (fun i => answeredAs below items true (start + i))
          (items.size - start) items.size 0 1 >>=
          fun ends => halve below items items.size (start + ends.1 + 1) (start + ends.2)
      else
        stride (fun i => answeredAs below items false (start - i)) (start + 1) items.size 0 1 >>=
          fun ends => halve below items items.size (start + 1 - ends.2) (start - ends.1) := by
  rw [gallop, hx]
  rfl

theorem answeredAs_eq (hbelow : ∀ x ∈ items, below x = pure (b x)) (hborder : BorderAt b items k)
    (wanted : Bool) {i : ℕ} (hi : i < items.length) :
    answeredAs below items.toArray wanted i = pure (decide (i < k) == wanted) := by
  have hget := List.getElem?_eq_getElem hi
  simp only [answeredAs, List.getElem?_toArray, hget, hbelow _ (List.getElem_mem hi), map_pure,
    hborder.below_eq hget]

/-- Wherever a gallop starts, it finds the border. -/
theorem gallop_eq (hbelow : ∀ x ∈ items, below x = pure (b x))
    (hborder : BorderAt b items k) {start : ℕ} (hstart : start < items.length) :
    gallop below items.toArray start = pure k := by
  have hwithin := hborder.within
  have hget := List.getElem?_eq_getElem hstart
  have hanswer := hbelow _ (List.getElem_mem hstart)
  rw [hborder.below_eq hget] at hanswer
  rw [gallop_start (by rw [List.getElem?_toArray, hget]), hanswer, pure_bind, List.size_toArray]
  by_cases hside : start < k
  · simp only [decide_eq_true hside, if_true]
    have hpasses : ∀ i < items.length - start,
        answeredAs below items.toArray true (start + i) = pure (decide (start + i < k)) := by
      intro i hi
      rw [answeredAs_eq hbelow hborder true (by omega), beq_true]
    obtain ⟨last, next, hstride, -, hnext, hpass, hend⟩ :=
      stride_ends hpasses items.length Nat.zero_lt_one (by omega) hside (by omega)
    rw [hstride, pure_bind]
    apply halve_eq hbelow hborder <;> omega
  · simp only [decide_eq_false hside, Bool.false_eq_true, if_false]
    have hpasses : ∀ i < start + 1,
        answeredAs below items.toArray false (start - i) = pure (decide (k ≤ start - i)) := by
      intro i hi
      rw [answeredAs_eq hbelow hborder false (by omega), beq_false, ← decide_not]
      simp only [Nat.not_lt]
    obtain ⟨last, next, hstride, -, hnext, hpass, hend⟩ :=
      stride_ends hpasses items.length Nat.zero_lt_one (by omega) (by omega) (by omega)
    rw [hstride, pure_bind]
    apply halve_eq hbelow hborder <;> omega

end Search

end Dossier.Sorting
