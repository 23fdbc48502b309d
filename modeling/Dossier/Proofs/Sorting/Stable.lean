import Dossier.Proofs.Sorting.Search
import Mathlib.Data.List.Perm.Basic
import Mathlib.Data.List.Pairwise
import Mathlib.Data.List.Forall2

/-!
# Weak orders and stable rearrangement

A comparison orders the items of a kind weakly: items may tie. A list is rearranged stably when it
keeps its items and, for every item, the order of those that tie with it. Lists that change places
are rearranged stably when every item of the one stands before every item of the other. Two sorted
lists of the same items have items that tie in each place.
-/

set_option autoImplicit false

namespace Dossier.Sorting

variable {m : Type → Type} [Monad m] {α : Type}

structure WeakOrder (lt : α → α → Bool) (S : α → Prop) : Prop where
  asymm : ∀ {a b}, S a → S b → lt a b = true → lt b a = false
  trans : ∀ {a b c}, S a → S b → S c → lt b a = false → lt c b = false → lt c a = false

def NotAfter (lt : α → α → Bool) (S : α → Prop) (a b : α) : Prop := S a ∧ S b ∧ lt b a = false

def Answers (less : α → α → m Bool) (lt : α → α → Bool) (S : α → Prop) : Prop :=
  ∀ a b, S a → S b → less a b = pure (lt a b)

def ties (lt : α → α → Bool) (a b : α) : Bool := !lt a b && !lt b a

structure Keeps (lt : α → α → Bool) (S : α → Prop) (l l' : List α) : Prop where
  perm : l.Perm l'
  stable : ∀ c, S c → l.filter (ties lt c) = l'.filter (ties lt c)

section Order

variable {lt : α → α → Bool} {S : α → Prop} {a b c : α} {l l' l₁ l₂ l₃ : List α}

theorem WeakOrder.flip (hlt : WeakOrder lt S) : WeakOrder (fun a b => lt b a) S where
  asymm := fun ha hb h => hlt.asymm hb ha h
  trans := fun ha hb hc h h' => hlt.trans hc hb ha h' h

theorem WeakOrder.irrefl (hlt : WeakOrder lt S) (ha : S a) : lt a a = false := by
  by_contra h
  have haa := Bool.not_eq_false _ ▸ h
  rw [hlt.asymm ha ha haa] at haa
  cases haa

/-- What stands before an item stands before all that are not in front of that item. -/
theorem WeakOrder.lt_of_lt (hlt : WeakOrder lt S) (ha : S a) (hb : S b) (hc : S c)
    (hab : lt a b = true) (hbc : lt c b = false) : lt a c = true := by
  by_contra hac
  have := hlt.trans hb hc ha hbc (Bool.not_eq_true _ ▸ hac)
  rw [hab] at this
  cases this

theorem NotAfter.trans (hlt : WeakOrder lt S) (hab : NotAfter lt S a b) (hbc : NotAfter lt S b c) :
    NotAfter lt S a c :=
  ⟨hab.1, hbc.2.1, hlt.trans hab.1 hab.2.1 hbc.2.1 hab.2.2 hbc.2.2⟩

theorem NotAfter.of_lt (hlt : WeakOrder lt S) (ha : S a) (hb : S b) (h : lt a b = true) :
    NotAfter lt S a b :=
  ⟨ha, hb, hlt.asymm ha hb h⟩

theorem notAfter_flip : NotAfter (fun a b => lt b a) S a b ↔ NotAfter lt S b a := by
  unfold NotAfter
  tauto

theorem ties_flip : ties (fun a b => lt b a) = ties lt := by
  funext a b
  exact Bool.and_comm _ _

/-! ## Borders in sorted lists -/

/-- In a sorted list, what stands before an item stands in front. -/
theorem border_lt (hlt : WeakOrder lt S) (hc : S c) (hl : l.Pairwise (NotAfter lt S)) :
    ∃ k, BorderAt (fun x => lt x c) l k := by
  apply exists_border
  apply hl.imp
  intro x y hxy hy
  by_contra hx
  have := hlt.trans hc hxy.1 hxy.2.1 (Bool.not_eq_true _ ▸ hx) hxy.2.2
  simp [hy] at this

/-- In a sorted list, what an item does not stand before stands in front. -/
theorem border_not_lt (hlt : WeakOrder lt S) (hc : S c) (hl : l.Pairwise (NotAfter lt S)) :
    ∃ k, BorderAt (fun x => !lt c x) l k := by
  apply exists_border
  apply hl.imp
  intro x y hxy hy
  simp only [Bool.not_eq_true'] at hy ⊢
  exact hlt.trans hxy.1 hxy.2.1 hc hxy.2.2 hy

/-! ## Stable rearrangement -/

theorem Keeps.refl (l : List α) : Keeps lt S l l := ⟨.refl l, fun _ _ => rfl⟩

theorem Keeps.of_eq (h : l = l') : Keeps lt S l l' := h ▸ .refl l

theorem Keeps.symm (h : Keeps lt S l l') : Keeps lt S l' l :=
  ⟨h.perm.symm, fun c hc => (h.stable c hc).symm⟩

theorem Keeps.trans (h : Keeps lt S l₁ l₂) (h' : Keeps lt S l₂ l₃) : Keeps lt S l₁ l₃ :=
  ⟨h.perm.trans h'.perm, fun c hc => (h.stable c hc).trans (h'.stable c hc)⟩

theorem Keeps.append (h : Keeps lt S l₁ l₂) (h' : Keeps lt S l l') :
    Keeps lt S (l₁ ++ l) (l₂ ++ l') where
  perm := h.perm.append h'.perm
  stable :=
    fun c hc => by rw [List.filter_append, List.filter_append, h.stable c hc, h'.stable c hc]

theorem Keeps.reverse (h : Keeps lt S l l') : Keeps lt S l.reverse l'.reverse where
  perm := (List.reverse_perm l).trans (h.perm.trans (List.reverse_perm l').symm)
  stable := fun c hc => by rw [List.filter_reverse, List.filter_reverse, h.stable c hc]

theorem Keeps.flip (h : Keeps (fun a b => lt b a) S l l') : Keeps lt S l l' where
  perm := h.perm
  stable := fun c hc => by simpa only [ties_flip] using h.stable c hc

theorem Keeps.within (h : Keeps lt S l l') (hl : ∀ x ∈ l', S x) : ∀ x ∈ l, S x :=
  fun x hx => hl x (h.perm.mem_iff.mp hx)

/-- Lists change places when all items of the second stand before those of the first. -/
theorem Keeps.swap (hlt : WeakOrder lt S) (hl : ∀ x ∈ l, S x) (hl' : ∀ y ∈ l', S y)
    (hbefore : ∀ x ∈ l, ∀ y ∈ l', lt y x = true) : Keeps lt S (l ++ l') (l' ++ l) where
  perm := List.perm_append_comm
  stable := by
    intro c hc
    rw [List.filter_append, List.filter_append]
    -- what ties with the same item ties, so only one of the two lists has such items
    by_cases hnone : l.filter (ties lt c) = []
    · rw [hnone, List.nil_append, List.append_nil]
    · obtain ⟨x, hx⟩ := List.exists_mem_of_ne_nil _ hnone
      have hempty : l'.filter (ties lt c) = [] := by
        rw [List.filter_eq_nil_iff]
        intro y hy htie
        rw [List.mem_filter] at hx
        simp only [ties, Bool.and_eq_true, Bool.not_eq_true'] at hx htie
        have hyx := hlt.trans (hl x hx.1) hc (hl' y hy) hx.2.1 htie.2
        rw [hbefore x hx.1 y hy] at hyx
        cases hyx
      rw [hempty, List.nil_append, List.append_nil]

/-! ## Classes of items that tie -/

theorem ties_congr (hlt : WeakOrder lt S) (ha : S a) (hb : S b) (hc : S c)
    (hab : ties lt a b = true) :
    ties lt c a = ties lt c b := by
  simp only [ties, Bool.and_eq_true, Bool.not_eq_true'] at hab
  have hright : lt c a = lt c b := by
    apply Bool.eq_iff_iff.mpr
    exact ⟨fun h => hlt.lt_of_lt hc ha hb h hab.2, fun h => hlt.lt_of_lt hc hb ha h hab.1⟩
  have hleft : lt a c = lt b c := by
    apply Bool.eq_iff_iff.mpr
    exact ⟨fun h => hlt.flip.lt_of_lt hc ha hb h hab.1, fun h => hlt.flip.lt_of_lt hc hb ha h hab.2⟩
  rw [ties, ties, hright, hleft]

theorem ties_self (hlt : WeakOrder lt S) (ha : S a) : ties lt a a = true := by
  simp [ties, hlt.irrefl ha]

/-- The first of a sorted list is not after any item that ties with one of the list. -/
theorem not_lt_first (hlt : WeakOrder lt S) (hl : (a :: l).Pairwise (NotAfter lt S))
    (ha : S a) (hb : S b) (hsome : 0 < (a :: l).countP (ties lt b)) : lt b a = false := by
  obtain ⟨x, hx, htie⟩ := List.countP_pos_iff.mp hsome
  simp only [ties, Bool.and_eq_true, Bool.not_eq_true'] at htie
  rcases List.mem_cons.mp hx with rfl | hx
  · exact htie.1
  · have hax := (List.pairwise_cons.mp hl).1 x hx
    exact hlt.trans ha hax.2.1 hb hax.2.2 htie.1

/-- Sorted lists with as many items of every class have items of one class in each place. -/
theorem ties_of_counts (hlt : WeakOrder lt S) (hl : l.Pairwise (NotAfter lt S))
    (hl' : l'.Pairwise (NotAfter lt S)) (hS : ∀ x ∈ l, S x) (hS' : ∀ x ∈ l', S x)
    (hcount : ∀ c, S c → l.countP (ties lt c) = l'.countP (ties lt c)) :
    List.Forall₂ (fun a b => ties lt a b = true) l l' := by
  induction l generalizing l' with
  | nil =>
    cases l' with
    | nil => exact .nil
    | cons b l' =>
      have hb := hS' b (List.mem_cons_self)
      have := hcount b hb
      simp [ties_self hlt hb] at this
  | cons a l ih =>
    have ha := hS a (List.mem_cons_self)
    cases l' with
    | nil =>
      have := hcount a ha
      simp [ties_self hlt ha] at this
    | cons b l' =>
      have hb := hS' b (List.mem_cons_self)
      have hab : ties lt a b = true := by
        have hba : lt b a = false := by
          apply not_lt_first hlt hl ha hb
          rw [hcount b hb]
          simp [ties_self hlt hb]
        have hab : lt a b = false := by
          apply not_lt_first hlt hl' hb ha
          rw [← hcount a ha]
          simp [ties_self hlt ha]
        simp [ties, hab, hba]
      refine .cons hab (ih hl.of_cons hl'.of_cons (fun x hx => hS x (List.mem_cons_of_mem _ hx))
        (fun x hx => hS' x (List.mem_cons_of_mem _ hx)) fun c hc => ?_)
      have := hcount c hc
      rw [List.countP_cons, List.countP_cons, ties_congr hlt ha hb hc hab] at this
      omega

end Order

end Dossier.Sorting
