import Dossier.Proofs.Sorting.Merge

/-!
# Runs are sorted

Every run is sorted and holds the items that it was taken from, rearranged stably: a rising row as
it stands, a falling row turned round, which is stable because it falls strictly, and every later
item at the border that the search for its place finds. Two neighbouring runs merge into one.
-/

set_option autoImplicit false

namespace Dossier.Sorting

variable {m : Type → Type} [Monad m] [LawfulMonad m] {α : Type}

variable {less : α → α → m Bool} {lt : α → α → Bool} {S : α → Prop}

structure Sorts (lt : α → α → Bool) (S : α → Prop) (sorted l : List α) : Prop where
  ordered : sorted.Pairwise (NotAfter lt S)
  keeps : Keeps lt S sorted l

section Lists

variable {a b c l : List α} {x y : α}

theorem Sorts.self (hl : l.Pairwise (NotAfter lt S)) : Sorts lt S l l := ⟨hl, .refl l⟩

theorem notAfter_last (hlt : WeakOrder lt S) (hS : ∀ x ∈ l, S x) (hl : l.Pairwise (NotAfter lt S))
    (hlast : l.getLast? = some y) : ∀ x ∈ l, NotAfter lt S x y := by
  obtain ⟨front, rfl⟩ := List.getLast?_eq_some_iff.mp hlast
  intro x hx
  rcases List.mem_append.mp hx with hfront | hlast
  · exact (List.pairwise_append.mp hl).2.2 x hfront y (by simp)
  · have hSy := hS y (by simp)
    rw [List.mem_singleton.mp hlast]
    exact ⟨hSy, hSy, hlt.irrefl hSy⟩

theorem notAfter_first (hlt : WeakOrder lt S) (hS : ∀ x ∈ l, S x) (hl : l.Pairwise (NotAfter lt S))
    (hfirst : l.head? = some x) : ∀ y ∈ l, NotAfter lt S x y := by
  obtain ⟨rest, rfl⟩ := List.head?_eq_some_iff.mp hfirst
  intro y hy
  rcases List.mem_cons.mp hy with rfl | hrest
  · have hSy := hS y (by simp)
    exact ⟨hSy, hSy, hlt.irrefl hSy⟩
  · exact (List.pairwise_cons.mp hl).1 y hrest

/-- What is sorted in the middle of a list stays between what stands before and behind all of it. -/
theorem Sorts.between (hmiddle : Sorts lt S b c) (ha : a.Pairwise (NotAfter lt S))
    (hl : l.Pairwise (NotAfter lt S)) (hbefore : ∀ x ∈ a, ∀ y ∈ c ++ l, NotAfter lt S x y)
    (hbehind : ∀ x ∈ c, ∀ y ∈ l, NotAfter lt S x y) : Sorts lt S (a ++ b ++ l) (a ++ c ++ l) where
  ordered := by
    have hmem (x : α) : x ∈ b ↔ x ∈ c := hmiddle.keeps.perm.mem_iff
    rw [List.pairwise_append, List.pairwise_append]
    refine ⟨⟨ha, hmiddle.ordered, fun x hx y hy => ?_⟩, hl, fun x hx y hy => ?_⟩
    · exact hbefore x hx y (List.mem_append_left _ ((hmem y).mp hy))
    · rcases List.mem_append.mp hx with hx | hx
      · exact hbefore x hx y (List.mem_append_right _ hy)
      · exact hbehind x ((hmem x).mp hx) y hy
  keeps := ((Keeps.refl a).append hmiddle.keeps).append (.refl l)

end Lists

/-! ## Merging two runs -/

section Merging

variable {a b : List α} {first last : α}

theorem mergeForward_sorts (hless : Answers less lt S) (hlt : WeakOrder lt S) (start : ℕ)
    (hS : ∀ x ∈ a ++ b, S x) (ha : a.Pairwise (NotAfter lt S)) (hb : b.Pairwise (NotAfter lt S))
    (hlast : a.getLast? = some last) (hfirst : b.head? = some first)
    (hbelow : ∀ y ∈ b, lt y last = true) (habove : ∀ x ∈ a, lt first x = true) :
    ∃ items start', mergeFrom less .forward start a b = pure (items, start') ∧
      Sorts lt S items (a ++ b) := by
  have hgood : (Merge.mk a b []).Good (Direction.forward.ahead lt) S := by
    constructor
    · simpa [Merge.came] using hS
    · exact ha
    · exact hb
    · intro x hx
      obtain rfl : last = x := by simpa [hlast] using hx
      exact hbelow
  have hhead : ∀ y ∈ b.head?, ∀ x ∈ a, Direction.forward.ahead lt y x = true := by
    intro y hy
    obtain rfl : first = y := by simpa [hfirst] using hy
    exact habove
  obtain ⟨items, start', hrun, hordered, hkeeps⟩ :=
    mergeFrom_sorts hless hlt .forward start hgood hhead
  exact ⟨items, start', hrun, hordered, hkeeps⟩

/-- From the end, both runs are seen turned round, and so is the order. -/
theorem mergeBackward_sorts (hless : Answers less lt S) (hlt : WeakOrder lt S) (start : ℕ)
    (hS : ∀ x ∈ a ++ b, S x) (ha : a.Pairwise (NotAfter lt S)) (hb : b.Pairwise (NotAfter lt S))
    (hlast : a.getLast? = some last) (hfirst : b.head? = some first)
    (hbelow : ∀ y ∈ b, lt y last = true) (habove : ∀ x ∈ a, lt first x = true) :
    ∃ items start', mergeFrom less .backward start b.reverse a.reverse = pure (items, start') ∧
      Sorts lt S items.reverse (a ++ b) := by
  have hturn {l : List α} : l.reverse.Pairwise (NotAfter (Direction.backward.ahead lt) S) ↔
      l.Pairwise (NotAfter lt S) := by
    rw [List.pairwise_reverse]
    exact ⟨fun h => h.imp notAfter_flip.mp, fun h => h.imp notAfter_flip.mpr⟩
  have hgood : (Merge.mk b.reverse a.reverse []).Good (Direction.backward.ahead lt) S := by
    constructor
    · intro x hx
      apply hS x
      simp only [Merge.came, List.reverse_nil, List.nil_append, List.mem_append,
        List.mem_reverse] at hx ⊢
      exact hx.symm
    · exact hturn.mpr hb
    · exact hturn.mpr ha
    · intro x hx y hy
      rw [List.getLast?_reverse] at hx
      obtain rfl : first = x := by simpa [hfirst] using hx
      exact habove y (List.mem_reverse.mp hy)
  have hhead : ∀ y ∈ a.reverse.head?, ∀ x ∈ b.reverse, Direction.backward.ahead lt y x = true := by
    intro y hy x hx
    rw [List.head?_reverse] at hy
    obtain rfl : last = y := by simpa [hlast] using hy
    exact hbelow x (List.mem_reverse.mp hx)
  obtain ⟨items, start', hrun, hordered, hkeeps⟩ :=
    mergeFrom_sorts hless hlt .backward start hgood hhead
  refine ⟨items, start', hrun, hturn.mp (by rwa [List.reverse_reverse]), ?_⟩
  have hturned := hkeeps.flip.reverse
  rwa [← List.reverse_append, List.reverse_reverse] at hturned

/-- What is in its place at the head of the first run and at the end of the second is left out of a
merge. -/
theorem merge_cut {start k j : ℕ} (hlast : a.getLast? = some last) (hfirst : b.head? = some first)
    (hk : gallop (fun x => (!·) <$> less first x) a.toArray 0 = pure k)
    (hj : gallop (fun y => less y last) b.toArray (b.length - 1) = pure j) :
    merge less start a b =
      if (a.drop k).isEmpty then pure (a.take k ++ b, start)
      else if (b.take j).isEmpty then pure (a.take k ++ a.drop k ++ b.drop j, start)
      else if (a.drop k).length ≤ (b.take j).length then
        (fun merged => (a.take k ++ merged.1 ++ b.drop j, merged.2)) <$>
          mergeFrom less .forward start (a.drop k) (b.take j)
      else
        (fun merged => (a.take k ++ merged.1.reverse ++ b.drop j, merged.2)) <$>
          mergeFrom less .backward start (b.take j).reverse (a.drop k).reverse := by
  obtain ⟨rest, rfl⟩ := List.head?_eq_some_iff.mp hfirst
  simp only [merge, hlast, hk, hj, pure_bind]
  simp only [map_eq_pure_bind]

/-- The items at the head of a run that an item does not stand before, with the search for their
end. -/
theorem head_border (hless : Answers less lt S) (hlt : WeakOrder lt S) (hS : ∀ x ∈ a, S x)
    (hSfirst : S first) (ha : a.Pairwise (NotAfter lt S)) (hnonempty : 0 < a.length) :
    ∃ k, BorderAt (fun x => !lt first x) a k ∧
      gallop (fun x => (!·) <$> less first x) a.toArray 0 = pure k := by
  obtain ⟨k, hborder⟩ := border_not_lt hlt hSfirst ha
  refine ⟨k, hborder, gallop_eq (fun x hx => ?_) hborder hnonempty⟩
  rw [hless first x hSfirst (hS x hx), map_pure]

/-- The items of a run that stand before an item, with the search for their end from the last of the
run. -/
theorem tail_border (hless : Answers less lt S) (hlt : WeakOrder lt S) (hS : ∀ y ∈ b, S y)
    (hSlast : S last) (hb : b.Pairwise (NotAfter lt S)) (hnonempty : 0 < b.length) :
    ∃ j, BorderAt (fun y => lt y last) b j ∧
      gallop (fun y => less y last) b.toArray (b.length - 1) = pure j := by
  obtain ⟨j, hborder⟩ := border_lt hlt hSlast hb
  refine ⟨j, hborder, gallop_eq (fun y hy => hless y last (hS y hy) hSlast) hborder ?_⟩
  omega

/-- Two runs are merged once what lies between the items in their places is sorted. -/
theorem Sorts.of_between {k j : ℕ} {items : List α} (ha : a.Pairwise (NotAfter lt S))
    (hb : b.Pairwise (NotAfter lt S)) (hbefore : ∀ x ∈ a.take k, ∀ y ∈ b, NotAfter lt S x y)
    (hbehind : ∀ x ∈ a, ∀ y ∈ b.drop j, NotAfter lt S x y)
    (hitems : Sorts lt S items (a.drop k ++ b.take j)) :
    Sorts lt S (a.take k ++ items ++ b.drop j) (a ++ b) := by
  have hrejoin : a.take k ++ (a.drop k ++ b.take j) ++ b.drop j = a ++ b := by
    rw [← List.append_assoc, List.take_append_drop, List.append_assoc, List.take_append_drop]
  rw [← hrejoin]
  apply hitems.between
  · exact ha.sublist (List.take_sublist _ _)
  · exact hb.sublist (List.drop_sublist _ _)
  · intro x hx y hy
    simp only [List.mem_append] at hy
    rcases hy with (hy | hy) | hy
    · have hsplit := (List.take_append_drop k a).symm ▸ ha
      exact (List.pairwise_append.mp hsplit).2.2 x hx y hy
    · exact hbefore x hx y (List.mem_of_mem_take hy)
    · exact hbefore x hx y (List.mem_of_mem_drop hy)
  · intro x hx y hy
    rcases List.mem_append.mp hx with hx | hx
    · exact hbehind x (List.mem_of_mem_drop hx) y hy
    · have hsplit := (List.take_append_drop j b).symm ▸ hb
      exact (List.pairwise_append.mp hsplit).2.2 x hx y hy

/-- Two runs cut at their borders merge into one, whichever of the two parts is the shorter. -/
theorem merge_sorts_between {k j : ℕ} (hless : Answers less lt S) (hlt : WeakOrder lt S) (start : ℕ)
    (hS : ∀ x ∈ a ++ b, S x) (ha : a.Pairwise (NotAfter lt S)) (hb : b.Pairwise (NotAfter lt S))
    (hlast : a.getLast? = some last) (hfirst : b.head? = some first)
    (hplaced : BorderAt (fun x => !lt first x) a k) (hrest : BorderAt (fun y => lt y last) b j)
    (ha' : a.drop k ≠ []) (hb' : b.take j ≠ []) :
    ∃ items start', (if (a.drop k).length ≤ (b.take j).length then
        (fun merged => (a.take k ++ merged.1 ++ b.drop j, merged.2)) <$>
          mergeFrom less .forward start (a.drop k) (b.take j)
      else
        (fun merged => (a.take k ++ merged.1.reverse ++ b.drop j, merged.2)) <$>
          mergeFrom less .backward start (b.take j).reverse (a.drop k).reverse) =
        pure (a.take k ++ items ++ b.drop j, start') ∧ Sorts lt S items (a.drop k ++ b.take j) := by
  have hS' : ∀ x ∈ a.drop k ++ b.take j, S x := by
    intro x hx
    apply hS x
    rcases List.mem_append.mp hx with hx | hx
    · exact List.mem_append_left b (List.mem_of_mem_drop hx)
    · exact List.mem_append_right a (List.mem_of_mem_take hx)
  have hlast' : (a.drop k).getLast? = some last := by
    rw [List.getLast?_drop, if_neg, hlast]
    rwa [← List.drop_eq_nil_iff]
  have hfirst' : (b.take j).head? = some first := by
    rw [List.head?_take, if_neg, hfirst]
    rintro rfl
    simp at hb'
  have habove : ∀ x ∈ a.drop k, lt first x = true := fun x hx => by simpa using hplaced.behind x hx
  have hcut := ha.sublist (List.drop_sublist k a)
  have hcut' := hb.sublist (List.take_sublist j b)
  split
  · obtain ⟨items, start', hrun, hitems⟩ :=
      mergeForward_sorts hless hlt start hS' hcut hcut' hlast' hfirst' hrest.before habove
    exact ⟨items, start', by rw [hrun, map_pure], hitems⟩
  · obtain ⟨items, start', hrun, hitems⟩ :=
      mergeBackward_sorts hless hlt start hS' hcut hcut' hlast' hfirst' hrest.before habove
    exact ⟨items.reverse, start', by rw [hrun, map_pure], hitems⟩

/-- Two sorted runs merge into one. -/
theorem merge_sorts (hless : Answers less lt S) (hlt : WeakOrder lt S) (start : ℕ)
    (hS : ∀ x ∈ a ++ b, S x) (ha : a.Pairwise (NotAfter lt S)) (hb : b.Pairwise (NotAfter lt S)) :
    ∃ items start', merge less start a b = pure (items, start') ∧ Sorts lt S items (a ++ b) := by
  have hSa : ∀ x ∈ a, S x := fun x hx => hS x (List.mem_append_left b hx)
  have hSb : ∀ y ∈ b, S y := fun y hy => hS y (List.mem_append_right a hy)
  cases hlast : a.getLast? with
  | none =>
    obtain rfl := List.getLast?_eq_none_iff.mp hlast
    exact ⟨b, start, rfl, .self hb⟩
  | some last =>
  cases hfirst : b.head? with
  | none =>
    obtain rfl := List.head?_eq_none_iff.mp hfirst
    rw [List.append_nil]
    exact ⟨a, start, by simp [merge], .self ha⟩
  | some first =>
    have hSlast := hSa last (List.mem_of_getLast? hlast)
    have hSfirst := hSb first (List.mem_of_head? hfirst)
    obtain ⟨k, hplaced, hk⟩ :=
      head_border hless hlt hSa hSfirst ha (List.length_pos_of_mem (List.mem_of_getLast? hlast))
    obtain ⟨j, hrest, hj⟩ :=
      tail_border hless hlt hSb hSlast hb (List.length_pos_of_mem (List.mem_of_head? hfirst))
    have hbefore : ∀ x ∈ a.take k, ∀ y ∈ b, NotAfter lt S x y := by
      intro x hx y hy
      have hside : lt first x = false := by simpa using hplaced.before x hx
      have hhigh := notAfter_first hlt hSb hb hfirst y hy
      exact NotAfter.trans hlt ⟨hSa x (List.mem_of_mem_take hx), hSfirst, hside⟩ hhigh
    have hbehind : ∀ x ∈ a, ∀ y ∈ b.drop j, NotAfter lt S x y := by
      intro x hx y hy
      have hside : lt y last = false := hrest.behind y hy
      have hlow := notAfter_last hlt hSa ha hlast x hx
      exact NotAfter.trans hlt hlow ⟨hSlast, hSb y (List.mem_of_mem_drop hy), hside⟩
    rw [merge_cut hlast hfirst hk hj]
    by_cases ha' : a.drop k = []
    · have htake : a.take k = a := by simpa [ha'] using List.take_append_drop k a
      rw [htake] at hbefore ⊢
      rw [ha', List.isEmpty_nil, if_pos rfl]
      exact ⟨a ++ b, start, rfl, .self (List.pairwise_append.mpr ⟨ha, hb, hbefore⟩)⟩
    by_cases hb' : b.take j = []
    · have hdrop : b.drop j = b := by simpa [hb'] using List.take_append_drop j b
      rw [hdrop] at hbehind ⊢
      rw [if_neg (by simpa using ha'), hb', List.isEmpty_nil, if_pos rfl, List.take_append_drop]
      exact ⟨a ++ b, start, rfl, .self (List.pairwise_append.mpr ⟨ha, hb, hbehind⟩)⟩
    rw [if_neg (by simpa using ha'), if_neg (by simpa using hb')]
    obtain ⟨items, start', hrun, hitems⟩ :=
      merge_sorts_between hless hlt start hS ha hb hlast hfirst hplaced hrest ha' hb'
    exact ⟨_, start', hrun, .of_between ha hb hbefore hbehind hitems⟩

end Merging

/-! ## Growing a run -/

section Growing

variable {l run rest : List α} {x : α}

/-- An item is put behind all that it does not stand before. -/
theorem insert_sorts (hless : Answers less lt S) (hlt : WeakOrder lt S)
    (hS : ∀ y ∈ l, S y) (hx : S x) (hl : l.Pairwise (NotAfter lt S)) :
    ∃ items, insert less l x = pure items ∧ Sorts lt S items (l ++ [x]) := by
  obtain ⟨k, hborder⟩ := border_not_lt hlt hx hl
  have hask : ∀ y ∈ l, (!·) <$> less x y = pure (!lt x y) := by
    intro y hy
    rw [hless x y hx (hS y hy), map_pure]
  have hplace :
      halve (fun y => (!·) <$> less x y) l.toArray (l.length + 1) 0 l.length = pure k := by
    apply halve_eq hask hborder (Nat.zero_le k) hborder.within (Nat.le_refl _)
    omega
  rw [insert, hplace, pure_bind]
  refine ⟨_, rfl, ?_, ?_⟩
  · have hsplit := (List.take_append_drop k l).symm ▸ hl
    rw [List.pairwise_append] at hsplit
    rw [List.pairwise_append, List.pairwise_cons]
    refine ⟨hsplit.1, ⟨fun y hy => ?_, hsplit.2.1⟩, fun y hy z hz => ?_⟩
    · have hside : lt x y = true := by simpa using hborder.behind y hy
      exact .of_lt hlt hx (hS y (List.mem_of_mem_drop hy)) hside
    · rcases List.mem_cons.mp hz with rfl | hz
      · have hside : lt z y = false := by simpa using hborder.before y hy
        exact ⟨hS y (List.mem_of_mem_take hy), hx, hside⟩
      · exact hsplit.2.2 y hy z hz
  · have hswap : Keeps lt S ([x] ++ l.drop k) (l.drop k ++ [x]) := by
      apply Keeps.symm
      apply Keeps.swap hlt
      · exact fun y hy => hS y (List.mem_of_mem_drop hy)
      · simpa using hx
      · intro y hy z hz
        rw [List.mem_singleton.mp hz]
        simpa using hborder.behind y hy
    have hwhole := (Keeps.refl (l.take k)).append hswap
    rwa [← List.append_assoc (l.take k) (l.drop k), List.take_append_drop] at hwhole

theorem insertAll_sorts (hless : Answers less lt S) (hlt : WeakOrder lt S)
    (hS : ∀ y ∈ l ++ rest, S y) (hl : l.Pairwise (NotAfter lt S)) :
    ∃ items, insertAll less l rest = pure items ∧ Sorts lt S items (l ++ rest) := by
  induction rest generalizing l with
  | nil => exact ⟨l, rfl, hl, .of_eq (List.append_nil l).symm⟩
  | cons x rest ih =>
    have hx : S x := hS x (by simp)
    have hSl : ∀ y ∈ l, S y := fun y hy => hS y (List.mem_append_left _ hy)
    obtain ⟨grown, hgrown, hordered, hkeeps⟩ := insert_sorts hless hlt hSl hx hl
    have hkeeps' : Keeps lt S (grown ++ rest) (l ++ x :: rest) := by
      have := hkeeps.append (.refl rest)
      rwa [List.append_assoc] at this
    obtain ⟨items, hitems, hsorts⟩ := ih (hkeeps'.within hS) hordered
    rw [insertAll, hgrown, pure_bind]
    exact ⟨items, hitems, hsorts.ordered, hsorts.keeps.trans hkeeps'⟩

/-- A rising row is taken as it stands. -/
theorem rising_sorts (hless : Answers less lt S) (hlt : WeakOrder lt S)
    (hS : ∀ y ∈ (x :: run).reverse ++ rest, S y)
      (hrun : (x :: run).reverse.Pairwise (NotAfter lt S)) :
    ∃ taken left, rising less (x :: run) x rest = pure (taken, left) ∧ x :: run <:+ taken ∧
      taken.reverse.Pairwise (NotAfter lt S) ∧
        taken.reverse ++ left = (x :: run).reverse ++ rest := by
  induction rest generalizing x run with
  | nil => exact ⟨x :: run, [], rfl, List.suffix_refl _, hrun, rfl⟩
  | cons y rest ih =>
    have hSx : S x := hS x (by simp)
    have hSy : S y := hS y (by simp)
    rw [rising, hless y x hSy hSx, pure_bind]
    by_cases hfalls : lt y x = true
    · rw [if_pos hfalls]
      exact ⟨x :: run, y :: rest, rfl, List.suffix_refl _, hrun, rfl⟩
    · rw [if_neg hfalls]
      have hside : NotAfter lt S x y := ⟨hSx, hSy, Bool.not_eq_true _ ▸ hfalls⟩
      have hSrun : ∀ z ∈ (x :: run).reverse, S z := fun z hz => hS z (List.mem_append_left _ hz)
      have hlast := notAfter_last hlt hSrun hrun (by simp : _ = some x)
      have hgrown : (y :: x :: run).reverse.Pairwise (NotAfter lt S) := by
        rw [List.reverse_cons, List.pairwise_append]
        refine ⟨hrun, List.pairwise_singleton _ _, fun z hz w hw => ?_⟩
        rw [List.mem_singleton.mp hw]
        exact (hlast z hz).trans hlt hside
      have hmove : (y :: x :: run).reverse ++ rest = (x :: run).reverse ++ y :: rest := by simp
      obtain ⟨taken, left, htaken, hsuffix, hordered, hitems⟩ := ih (by rwa [hmove]) hgrown
      exact ⟨taken, left, htaken, (List.suffix_cons y _).trans hsuffix,
        hordered, hitems.trans hmove⟩

/-- A falling row is turned round: every item stands strictly before those taken earlier. -/
theorem falling_sorts (hless : Answers less lt S) (hlt : WeakOrder lt S)
    (hS : ∀ y ∈ (x :: run) ++ rest, S y) (hrun : (x :: run).Pairwise (NotAfter lt S)) :
    ∃ taken left, falling less (x :: run) x rest = pure (taken, left) ∧ x :: run <:+ taken ∧
      taken.Pairwise (NotAfter lt S) ∧ Keeps lt S (taken ++ left) ((x :: run) ++ rest) := by
  induction rest generalizing x run with
  | nil => exact ⟨x :: run, [], rfl, List.suffix_refl _, hrun, .refl _⟩
  | cons y rest ih =>
    have hSx : S x := hS x (by simp)
    have hSy : S y := hS y (by simp)
    rw [falling, hless y x hSy hSx, pure_bind]
    by_cases hfalls : lt y x = true
    · rw [if_pos hfalls]
      have hSrun : ∀ z ∈ x :: run, S z := fun z hz => hS z (List.mem_append_left _ hz)
      have hfirst := notAfter_first hlt hSrun hrun List.head?_cons
      have hbefore : ∀ z ∈ x :: run, lt y z = true := fun z hz =>
        hlt.lt_of_lt hSy hSx (hSrun z hz) hfalls (hfirst z hz).2.2
      have hgrown : (y :: x :: run).Pairwise (NotAfter lt S) :=
        List.pairwise_cons.mpr ⟨fun z hz => .of_lt hlt hSy (hSrun z hz) (hbefore z hz), hrun⟩
      have hswap : Keeps lt S ([y] ++ (x :: run)) ((x :: run) ++ [y]) := by
        apply Keeps.symm
        apply Keeps.swap hlt hSrun
        · simpa using hSy
        · intro z hz w hw
          rw [List.mem_singleton.mp hw]
          exact hbefore z hz
      have hmove : Keeps lt S ((y :: x :: run) ++ rest) ((x :: run) ++ y :: rest) := by
        have := hswap.append (.refl rest)
        rwa [List.append_assoc (x :: run)] at this
      obtain ⟨taken, left, htaken, hsuffix, hordered, hitems⟩ := ih (hmove.within hS) hgrown
      exact ⟨taken, left, htaken, (List.suffix_cons y _).trans hsuffix,
        hordered, hitems.trans hmove⟩
    · rw [if_neg hfalls]
      exact ⟨x :: run, y :: rest, rfl, List.suffix_refl _, hrun, .refl _⟩

/-- The run at the head of a list takes at least one item. -/
theorem headRun_sorts (hless : Answers less lt S) (hlt : WeakOrder lt S) (hS : ∀ y ∈ x :: l, S y) :
    ∃ run rest, headRun less (x :: l) = pure (run, rest) ∧ run ≠ [] ∧ run.Pairwise (NotAfter lt S) ∧
      Keeps lt S (run ++ rest) (x :: l) := by
  cases l with
  | nil => exact ⟨[x], [], rfl, List.cons_ne_nil _ _, List.pairwise_singleton _ _, .refl _⟩
  | cons y rest =>
    have hSx : S x := hS x (by simp)
    have hSy : S y := hS y (by simp)
    rw [headRun, hless y x hSy hSx, pure_bind]
    by_cases hfalls : lt y x = true
    · rw [if_pos hfalls]
      have hpair : [y, x].Pairwise (NotAfter lt S) := by
        simpa using NotAfter.of_lt hlt hSy hSx hfalls
      have hswap : Keeps lt S ([y] ++ [x]) ([x] ++ [y]) := by
        apply Keeps.symm
        apply Keeps.swap hlt <;> simpa
      have hmove : Keeps lt S ([y, x] ++ rest) (x :: y :: rest) := hswap.append (.refl rest)
      obtain ⟨taken, left, htaken, hsuffix, hordered, hitems⟩ :=
        falling_sorts hless hlt (hmove.within hS) hpair
      exact ⟨taken, left, htaken, hsuffix.ne_nil (List.cons_ne_nil _ _),
        hordered, hitems.trans hmove⟩
    · rw [if_neg hfalls]
      have hside : NotAfter lt S x y := ⟨hSx, hSy, Bool.not_eq_true _ ▸ hfalls⟩
      have hpair : [y, x].reverse.Pairwise (NotAfter lt S) := by simpa using hside
      have hS' : ∀ z ∈ [y, x].reverse ++ rest, S z := hS
      obtain ⟨taken, left, htaken, hsuffix, hordered, hitems⟩ := rising_sorts hless hlt hS' hpair
      rw [htaken, pure_bind]
      have hsome : taken ≠ [] := hsuffix.ne_nil (List.cons_ne_nil _ _)
      exact ⟨taken.reverse, left, rfl, by simpa using hsome, hordered, .of_eq hitems⟩

theorem nextRun_sorts (hless : Answers less lt S) (hlt : WeakOrder lt S) (least : ℕ)
    (hS : ∀ y ∈ x :: l, S y) :
    ∃ run rest, nextRun less least (x :: l) = pure (run, rest) ∧ run ≠ [] ∧
      run.Pairwise (NotAfter lt S) ∧ Keeps lt S (run ++ rest) (x :: l) := by
  obtain ⟨head, rest, hhead, hsome, hordered, hkeeps⟩ := headRun_sorts hless hlt hS
  have hsplit : head ++ rest =
      head ++ rest.take (least - head.length) ++ rest.drop (least - head.length) := by
    rw [List.append_assoc, List.take_append_drop]
  have hS' : ∀ y ∈ head ++ rest.take (least - head.length), S y := by
    intro y hy
    apply hkeeps.within hS
    rw [hsplit]
    exact List.mem_append_left _ hy
  obtain ⟨run, hrun, hsorts⟩ := insertAll_sorts hless hlt hS' hordered
  rw [nextRun, hhead, pure_bind]
  simp only [hrun, pure_bind]
  refine ⟨run, _, rfl, ?_, hsorts.ordered, ?_⟩
  · intro hnil
    have hlength := hsorts.keeps.perm.length_eq
    have hpos := List.length_pos_of_ne_nil hsome
    rw [hnil, List.length_append, List.length_nil] at hlength
    omega
  · rw [hsplit] at hkeeps
    exact (hsorts.keeps.append (.refl _)).trans hkeeps

end Growing

end Dossier.Sorting
