import Dossier.Proofs.Sorting.Stable

/-!
# Merging keeps the order

Where a comparison answers for all items and orders them weakly, merging two sorted runs gives one
sorted run with the items of both, rearranged stably. The invariant of a merge under way: the items
that have gone out are sorted in front of what is left of either run, and the last item of the short
run has the whole long run before it. Every step keeps it, from whichever end the merge works and
whether it takes one item or gallops.
-/

set_option autoImplicit false

namespace Dossier.Sorting

variable {m : Type → Type} [Monad m] [LawfulMonad m] {α : Type}

/-! ## A merge under way -/

namespace Merge

def came (s : Merge α) : List α := s.out.reverse ++ s.short ++ s.long

def left (s : Merge α) : ℕ := s.short.length + s.long.length

/-- What has gone out is sorted in front of either run, and the last item of the short run stands
behind the long run. -/
structure Good (lt : α → α → Bool) (S : α → Prop) (s : Merge α) : Prop where
  within : ∀ x ∈ s.came, S x
  short : (s.out.reverse ++ s.short).Pairwise (NotAfter lt S)
  long : (s.out.reverse ++ s.long).Pairwise (NotAfter lt S)
  final : ∀ x ∈ s.short.getLast?, ∀ y ∈ s.long, lt y x = true

structure Leads (lt : α → α → Bool) (S : α → Prop) (s s' : Merge α) : Prop where
  good : s'.Good lt S
  keeps : Keeps lt S s'.came s.came
  shrinks : s'.isOver = true ∨ s'.left < s.left

section Moves

variable {lt : α → α → Bool} {S : α → Prop} {s : Merge α} {k : ℕ}

theorem isOver_iff : s.isOver = true ↔ s.long = [] ∨ s.short.length ≤ 1 := by
  simp [isOver]

theorem mem_short {x : α} (hx : x ∈ s.short) : x ∈ s.came := by
  simp [came, hx]

theorem mem_long {x : α} (hx : x ∈ s.long) : x ∈ s.came := by
  simp [came, hx]

theorem came_takeShort (s : Merge α) (k : ℕ) : (s.takeShort k).came = s.came := by
  simp [came, takeShort]

/-- Items of the long run may go out when they stand before the whole short run. -/
theorem keeps_takeLong (hlt : WeakOrder lt S) (hs : ∀ x ∈ s.came, S x)
    (hk : ∀ y ∈ s.long.take k, ∀ x ∈ s.short, lt y x = true) :
    Keeps lt S (s.takeLong k).came s.came := by
  have hswap : Keeps lt S (s.short ++ s.long.take k) (s.long.take k ++ s.short) := by
    apply Keeps.swap hlt
    · exact fun x hx => hs x (mem_short hx)
    · exact fun y hy => hs y (mem_long (List.mem_of_mem_take hy))
    · exact fun x hx y hy => hk y hy x hx
  have hafter : (s.takeLong k).came =
      s.out.reverse ++ ((s.long.take k ++ s.short) ++ s.long.drop k) := by
    simp [came, takeLong]
  have hbefore : s.came = s.out.reverse ++ ((s.short ++ s.long.take k) ++ s.long.drop k) := by
    simp [came]
  rw [hafter, hbefore]
  exact (Keeps.refl _).append (hswap.symm.append (.refl _))

theorem Good.takeLong (hlt : WeakOrder lt S) (hs : s.Good lt S)
    (hk : ∀ y ∈ s.long.take k, ∀ x ∈ s.short, lt y x = true) : (s.takeLong k).Good lt S := by
  have hout : (s.takeLong k).out.reverse = s.out.reverse ++ s.long.take k := by
    simp [Merge.takeLong]
  constructor
  · exact (keeps_takeLong hlt hs.within hk).within hs.within
  · have hfront : (s.out.reverse ++ s.long.take k).Pairwise (NotAfter lt S) :=
      hs.long.sublist ((List.take_sublist _ _).append_left _)
    have hshort := List.pairwise_append.mp hs.short
    rw [hout, List.pairwise_append]
    refine ⟨hfront, hshort.2.1, fun a ha x hx => ?_⟩
    rcases List.mem_append.mp ha with ha | ha
    · exact hshort.2.2 a ha x hx
    · apply NotAfter.of_lt hlt
      · exact hs.within a (mem_long (List.mem_of_mem_take ha))
      · exact hs.within x (mem_short hx)
      · exact hk a ha x hx
  · rw [hout, List.append_assoc]
    exact (List.take_append_drop k s.long).symm ▸ hs.long
  · exact fun x hx y hy => hs.final x hx y (List.mem_of_mem_drop hy)

theorem Good.takeShort (hs : s.Good lt S)
    (hk : ∀ x ∈ s.short.take k, ∀ y ∈ s.long, lt y x = false) : (s.takeShort k).Good lt S := by
  have hout : (s.takeShort k).out.reverse = s.out.reverse ++ s.short.take k := by
    simp [Merge.takeShort]
  constructor
  · rw [came_takeShort]
    exact hs.within
  · rw [hout, List.append_assoc]
    exact (List.take_append_drop k s.short).symm ▸ hs.short
  · have hfront : (s.out.reverse ++ s.short.take k).Pairwise (NotAfter lt S) :=
      hs.short.sublist ((List.take_sublist _ _).append_left _)
    have hlong := List.pairwise_append.mp hs.long
    rw [hout, List.pairwise_append]
    refine ⟨hfront, hlong.2.1, fun a ha y hy => ?_⟩
    rcases List.mem_append.mp ha with ha | ha
    · exact hlong.2.2 a ha y hy
    · exact ⟨hs.within a (mem_short (List.mem_of_mem_take ha)),
        hs.within y (mem_long hy), hk a ha y hy⟩
  · intro x hx y hy
    have hlast : (s.short.drop k).getLast? = some x := hx
    rw [List.getLast?_drop] at hlast
    split at hlast
    · cases hlast
    · exact hs.final x hlast y hy

/-- A merge that is over has all items in order. -/
theorem Good.sorted (hlt : WeakOrder lt S) (hs : s.Good lt S) (hover : s.isOver = true) :
    s.all.Pairwise (NotAfter lt S) ∧ Keeps lt S s.all s.came := by
  rcases isOver_iff.mp hover with hlong | hshort
  · rw [all, came, hlong, List.append_nil, List.append_nil]
    exact ⟨hs.short, .refl _⟩
  · -- what is left of the short run is its last item, so the whole long run may go out before it
    have hfinal : ∀ y ∈ s.long.take s.long.length, ∀ x ∈ s.short, lt y x = true := by
      intro y hy x hx
      apply hs.final x _ y (List.mem_of_mem_take hy)
      cases hs' : s.short with
      | nil => simp [hs'] at hx
      | cons z rest =>
        have hrest : rest = [] := by simpa [hs'] using hshort
        simp_all
    have hsorted := (hs.takeLong hlt hfinal).short
    have hkeeps := keeps_takeLong hlt hs.within hfinal
    have hout :
        (s.takeLong s.long.length).out.reverse ++ (s.takeLong s.long.length).short = s.all := by
      simp [all, Merge.takeLong]
    have hcame : (s.takeLong s.long.length).came = s.all := by
      simp [all, came, Merge.takeLong]
    exact ⟨hout ▸ hsorted, hcame ▸ hkeeps⟩

/-- An item of the long run that stands before the head of the short run stands before all of it. -/
theorem Good.before_short (hlt : WeakOrder lt S) (hs : s.Good lt S) {x y : α} {shorts : List α}
    (hshort : s.short = x :: shorts) (hy : y ∈ s.long) (hyx : lt y x = true) :
    ∀ x' ∈ s.short, lt y x' = true := by
  have hSy := hs.within y (mem_long hy)
  have hshorts := (List.pairwise_append.mp hs.short).2.1
  rw [hshort, List.pairwise_cons] at hshorts
  intro x' hx'
  rw [hshort, List.mem_cons] at hx'
  rcases hx' with rfl | hx'
  · exact hyx
  · have hxx' := hshorts.1 x' hx'
    exact hlt.lt_of_lt hSy hxx'.1 hxx'.2.1 hyx hxx'.2.2

/-- An item of the short run that the head of the long run does not stand before, no item of it
does. -/
theorem Good.not_before_long (hlt : WeakOrder lt S) (hs : s.Good lt S) {x y : α} {longs : List α}
    (hlong : s.long = y :: longs) (hx : x ∈ s.short) (hyx : lt y x = false) :
    ∀ y' ∈ s.long, lt y' x = false := by
  have hSx := hs.within x (mem_short hx)
  have hlongs := (List.pairwise_append.mp hs.long).2.1
  rw [hlong, List.pairwise_cons] at hlongs
  intro y' hy'
  rw [hlong, List.mem_cons] at hy'
  rcases hy' with rfl | hy'
  · exact hyx
  · have hyy' := hlongs.1 y' hy'
    exact hlt.trans hSx hyy'.1 hyy'.2.1 hyx hyy'.2.2

theorem Leads.trans {s' s'' : Merge α} (h : Leads lt S s s') (hover : s'.isOver = false)
    (h' : Leads lt S s' s'') : Leads lt S s s'' where
  good := h'.good
  keeps := h'.keeps.trans h.keeps
  shrinks := h'.shrinks.imp_right fun hleft =>
    Nat.lt_trans hleft (h.shrinks.resolve_left (by simp [hover]))

theorem nonempty_of_not_over (hover : s.isOver = false) : s.short ≠ [] ∧ s.long ≠ [] := by
  have hnot := mt isOver_iff.mpr (Bool.eq_false_iff.mp hover)
  constructor
  · intro hshort
    simp [hshort] at hnot
  · intro hlong
    simp [hlong] at hnot

end Moves

end Merge

/-! ## Steps -/

def Direction.ahead (direction : Direction) (lt : α → α → Bool) : α → α → Bool :=
  match direction with
  | .forward => lt
  | .backward => fun a b => lt b a

section Steps

variable {less : α → α → m Bool} {lt : α → α → Bool} {S : α → Prop} {s : Merge α}

theorem Direction.weakOrder (hlt : WeakOrder lt S) (direction : Direction) :
    WeakOrder (direction.ahead lt) S := by
  cases direction with
  | forward => exact hlt
  | backward => exact hlt.flip

omit [LawfulMonad m] in
theorem longFirst_eq (hless : Answers less lt S) (direction : Direction)
    {x y : α} (hx : S x) (hy : S y) :
    longFirst less direction x y = pure (direction.ahead lt y x) := by
  cases direction with
  | forward => exact hless y x hy hx
  | backward => exact hless x y hx hy

/-- From either end, the items that go out in a row are those in front of the border. -/
theorem row_eq {goesOut : α → m Bool} {g : α → Bool} {run : List α} {k : ℕ} (direction : Direction)
    (hrun : run ≠ []) (hgoes : ∀ x ∈ run, goesOut x = pure (g x)) (hborder : BorderAt g run k) :
    row direction goesOut run = pure k := by
  have hpos := List.length_pos_of_ne_nil hrun
  cases direction with
  | forward => exact gallop_eq hgoes hborder hpos
  | backward =>
    have hstays : ∀ x ∈ run.reverse, (!·) <$> goesOut x = pure (!g x) := by
      intro x hx
      rw [hgoes x (List.mem_reverse.mp hx), map_pure]
    have hstart : run.length - 1 < run.reverse.length := by
      rw [List.length_reverse]
      omega
    have hplace := gallop_eq hstays hborder.reverse hstart
    have hcut : run.length - (run.length - k) = k := by
      have := hborder.within
      omega
    rw [row, hplace, pure_bind, hcut]

omit [LawfulMonad m] in
/-- One item goes out. -/
theorem one_leads (hless : Answers less lt S) (hlt : WeakOrder lt S) (direction : Direction)
    (hs : s.Good (direction.ahead lt) S) {x y : α} {shorts longs : List α}
      (hshort : s.short = x :: shorts)
    (hlong : s.long = y :: longs) :
    ∃ isLong, longFirst less direction x y = pure isLong ∧
      Merge.Leads (direction.ahead lt) S s (if isLong then s.takeLong 1 else s.takeShort 1) := by
  have horder := direction.weakOrder hlt
  have hx : x ∈ s.short := hshort ▸ List.mem_cons_self
  have hy : y ∈ s.long := hlong ▸ List.mem_cons_self
  have hanswer := longFirst_eq hless direction (hs.within x (Merge.mem_short hx))
    (hs.within y (Merge.mem_long hy))
  refine ⟨_, hanswer, ?_⟩
  by_cases hfirst : direction.ahead lt y x = true
  · have htake : ∀ y' ∈ s.long.take 1, ∀ x' ∈ s.short, direction.ahead lt y' x' = true := by
      intro y' hy'
      have hy' : y' = y := by simpa [hlong] using hy'
      rw [hy']
      exact hs.before_short horder hshort hy hfirst
    rw [if_pos hfirst]
    refine ⟨hs.takeLong horder htake, Merge.keeps_takeLong horder hs.within htake, .inr ?_⟩
    simp [Merge.left, Merge.takeLong, hlong]
  · have htake : ∀ x' ∈ s.short.take 1, ∀ y' ∈ s.long, direction.ahead lt y' x' = false := by
      intro x' hx'
      have hx' : x' = x := by simpa [hshort] using hx'
      rw [hx']
      exact hs.not_before_long horder hlong hx (Bool.not_eq_true _ ▸ hfirst)
    rw [if_neg hfirst]
    refine ⟨hs.takeShort htake, .of_eq (Merge.came_takeShort s 1), .inr ?_⟩
    simp [Merge.left, Merge.takeShort, hshort]

/-- A row of the short run goes out, and the item of the long run that ends it. -/
theorem shortRow_leads (hless : Answers less lt S) (hlt : WeakOrder lt S) (direction : Direction)
    (hs : s.Good (direction.ahead lt) S) (hover : s.isOver = false) :
    ∃ count s', shortRow less direction s = pure (count, s') ∧
      Merge.Leads (direction.ahead lt) S s s' := by
  have horder := direction.weakOrder hlt
  obtain ⟨hshort, hlong⟩ := Merge.nonempty_of_not_over hover
  obtain ⟨y, longs, hlongs⟩ := List.exists_cons_of_ne_nil hlong
  have hy : y ∈ s.long := hlongs ▸ List.mem_cons_self
  have hSy := hs.within y (Merge.mem_long hy)
  obtain ⟨k, hborder⟩ := border_not_lt horder hSy (List.pairwise_append.mp hs.short).2.1
  have hstays :
      ∀ x ∈ s.short, (!·) <$> longFirst less direction x y = pure (!direction.ahead lt y x) := by
    intro x hx
    rw [longFirst_eq hless direction (hs.within x (Merge.mem_short hx)) hSy, map_pure]
  have hrow := row_eq direction hshort hstays hborder
  have htake : ∀ x ∈ s.short.take k, ∀ y' ∈ s.long, direction.ahead lt y' x = false := by
    intro x hx
    apply hs.not_before_long horder hlongs (List.mem_of_mem_take hx)
    simpa using hborder.before x hx
  have hshorter := hs.takeShort htake
  rw [shortRow, hlongs]
  simp only [hrow, pure_bind]
  by_cases hend : (s.takeShort k).isOver = true
  · rw [if_pos hend]
    exact ⟨k, _, rfl, hshorter, .of_eq (Merge.came_takeShort s k), .inl hend⟩
  · rw [if_neg hend]
    have hnext : ∀ y' ∈ (s.takeShort k).long.take 1, ∀ x ∈ (s.takeShort k).short,
        direction.ahead lt y' x = true := by
      intro y' hy' x hx
      have hy' : y' = y := by simpa [Merge.takeShort, hlongs] using hy'
      rw [hy']
      simpa using hborder.behind x hx
    refine ⟨k, _, rfl, hshorter.takeLong horder hnext, ?_, .inr ?_⟩
    · have hkeeps := Merge.keeps_takeLong horder hshorter.within hnext
      rwa [Merge.came_takeShort] at hkeeps
    · simp only [Merge.left, Merge.takeLong, Merge.takeShort, hlongs, List.length_drop,
        List.length_cons]
      omega

/-- A row of the long run goes out, and the item of the short run that ends it. -/
theorem longRow_leads (hless : Answers less lt S) (hlt : WeakOrder lt S) (direction : Direction)
    (hs : s.Good (direction.ahead lt) S) (hover : s.isOver = false) :
    ∃ count s', longRow less direction s = pure (count, s') ∧
      Merge.Leads (direction.ahead lt) S s s' := by
  have horder := direction.weakOrder hlt
  obtain ⟨hshort, hlong⟩ := Merge.nonempty_of_not_over hover
  obtain ⟨x, shorts, hshorts⟩ := List.exists_cons_of_ne_nil hshort
  have hx : x ∈ s.short := hshorts ▸ List.mem_cons_self
  have hSx := hs.within x (Merge.mem_short hx)
  obtain ⟨k, hborder⟩ := border_lt horder hSx (List.pairwise_append.mp hs.long).2.1
  have hgoes : ∀ y ∈ s.long, longFirst less direction x y = pure (direction.ahead lt y x) := by
    intro y hy
    exact longFirst_eq hless direction hSx (hs.within y (Merge.mem_long hy))
  have hrow := row_eq direction hlong hgoes hborder
  have htake : ∀ y ∈ s.long.take k, ∀ x' ∈ s.short, direction.ahead lt y x' = true := by
    intro y hy
    exact hs.before_short horder hshorts (List.mem_of_mem_take hy) (hborder.before y hy)
  have hshorter := hs.takeLong horder htake
  have hkeeps := Merge.keeps_takeLong horder hs.within htake
  rw [longRow, hshorts]
  simp only [hrow, pure_bind]
  by_cases hend : (s.takeLong k).isOver = true
  · rw [if_pos hend]
    exact ⟨k, _, rfl, hshorter, hkeeps, .inl hend⟩
  · rw [if_neg hend]
    have hnext : ∀ x' ∈ (s.takeLong k).short.take 1, ∀ y ∈ (s.takeLong k).long,
        direction.ahead lt y x' = false := by
      intro x' hx' y hy
      have hx' : x' = x := by simpa [Merge.takeLong, hshorts] using hx'
      rw [hx']
      exact hborder.behind y hy
    refine ⟨k, _, rfl, hshorter.takeShort hnext, ?_, .inr ?_⟩
    · rwa [Merge.came_takeShort]
    · simp only [Merge.left, Merge.takeLong, Merge.takeShort, hshorts, List.length_drop,
        List.length_cons]
      omega

/-- Two rows go out. -/
theorem gallopOnce_leads (hless : Answers less lt S) (hlt : WeakOrder lt S) (direction : Direction)
    (hs : s.Good (direction.ahead lt) S) (hover : s.isOver = false) :
    ∃ count s', gallopOnce less direction s = pure (count, s') ∧
      Merge.Leads (direction.ahead lt) S s s' := by
  have hshort := fun {s : Merge α} => shortRow_leads (s := s) hless hlt direction
  have hlong := fun {s : Merge α} => longRow_leads (s := s) hless hlt direction
  cases direction with
  | forward =>
    obtain ⟨one, s₁, hone, hleads⟩ := hshort hs hover
    simp only [gallopOnce, hone, pure_bind]
    by_cases hend : s₁.isOver = true
    · rw [if_pos hend]
      exact ⟨one, s₁, rfl, hleads⟩
    · rw [if_neg hend]
      have hend := Bool.not_eq_true _ ▸ hend
      obtain ⟨other, s₂, hother, hleads'⟩ := hlong hleads.good hend
      rw [hother, pure_bind]
      exact ⟨_, s₂, rfl, hleads.trans hend hleads'⟩
  | backward =>
    obtain ⟨one, s₁, hone, hleads⟩ := hlong hs hover
    simp only [gallopOnce, hone, pure_bind]
    by_cases hend : s₁.isOver = true
    · rw [if_pos hend]
      exact ⟨one, s₁, rfl, hleads⟩
    · rw [if_neg hend]
      have hend := Bool.not_eq_true _ ▸ hend
      obtain ⟨other, s₂, hother, hleads'⟩ := hshort hleads.good hend
      rw [hother, pure_bind]
      exact ⟨_, s₂, rfl, hleads.trans hend hleads'⟩

/-! ## Whole merges -/

/-- From any state of the invariant a merge runs to its end: by induction on the fuel, which covers
the items that are left. -/
theorem proceed_sorts (hless : Answers less lt S) (hlt : WeakOrder lt S) (direction : Direction)
    {fuel : ℕ} {pace : Pace} {start : ℕ} (hs : s.Good (direction.ahead lt) S)
      (hover : s.isOver = false)
    (hfuel : s.left ≤ fuel) :
    ∃ items start', proceed less direction fuel pace start s = pure (items, start') ∧
      items.Pairwise (NotAfter (direction.ahead lt) S) ∧
        Keeps (direction.ahead lt) S items s.came := by
  induction fuel generalizing s pace start with
  | zero =>
    have hlong := (Merge.nonempty_of_not_over hover).2
    have hpos := List.length_pos_of_ne_nil hlong
    rw [Merge.left] at hfuel
    omega
  | succ fuel ih =>
    have horder := direction.weakOrder hlt
    have hend {s' : Merge α} (hleads : Merge.Leads (direction.ahead lt) S s s')
        (hover' : s'.isOver = true) :
        ∃ items start', (pure (s'.all, start) : m _) = pure (items, start') ∧
          items.Pairwise (NotAfter (direction.ahead lt) S) ∧
            Keeps (direction.ahead lt) S items s.came := by
      obtain ⟨hsorted, hkeeps⟩ := hleads.good.sorted horder hover'
      exact ⟨s'.all, start, rfl, hsorted, hkeeps.trans hleads.keeps⟩
    have hon {s' : Merge α} {pace : Pace} {start : ℕ}
        (hleads : Merge.Leads (direction.ahead lt) S s s') (hover' : ¬ s'.isOver = true) :
        ∃ items start', proceed less direction fuel pace start s' = pure (items, start') ∧
          items.Pairwise (NotAfter (direction.ahead lt) S) ∧
            Keeps (direction.ahead lt) S items s.came := by
      have hleft := hleads.shrinks.resolve_left hover'
      obtain ⟨items, start', hrun, hsorted, hkeeps⟩ :=
        ih hleads.good (Bool.not_eq_true _ ▸ hover') (by omega)
      exact ⟨items, start', hrun, hsorted, hkeeps.trans hleads.keeps⟩
    cases pace with
    | single short long =>
      obtain ⟨hshort, hlong⟩ := Merge.nonempty_of_not_over hover
      obtain ⟨x, shorts, hshorts⟩ := List.exists_cons_of_ne_nil hshort
      obtain ⟨y, longs, hlongs⟩ := List.exists_cons_of_ne_nil hlong
      obtain ⟨isLong, hanswer, hleads⟩ := one_leads hless hlt direction hs hshorts hlongs
      rw [proceed, hshorts, hlongs]
      simp only [hanswer, pure_bind]
      generalize (if isLong = true then s.takeLong 1 else s.takeShort 1) = s' at hleads ⊢
      split
      · next hover' => exact hend hleads hover'
      · next hover' =>
        -- whichever run gave the item, the merge goes on at one of the two paces
        cases isLong <;> simp only [Bool.false_eq_true, if_true, if_false] <;> split <;>
          exact hon hleads hover'
    | gallop =>
      obtain ⟨count, s', hrun, hleads⟩ := gallopOnce_leads hless hlt direction hs hover
      rw [proceed]
      simp only [hrun, pure_bind]
      split
      · next hover' => exact hend hleads hover'
      · next hover' =>
        split
        · exact hon hleads hover'
        · exact hon hleads hover'

/-- Two runs are merged when the first item of the long run stands before the whole short run, and
the last item of the short run behind the whole long run. -/
theorem mergeFrom_sorts (hless : Answers less lt S) (hlt : WeakOrder lt S) (direction : Direction)
    (start : ℕ) {short long : List α} (hs : (Merge.mk short long []).Good (direction.ahead lt) S)
    (hfirst : ∀ y ∈ long.head?, ∀ x ∈ short, direction.ahead lt y x = true) :
    ∃ items start', mergeFrom less direction start short long = pure (items, start') ∧
      items.Pairwise (NotAfter (direction.ahead lt) S) ∧
      Keeps (direction.ahead lt) S items (short ++ long) := by
  have horder := direction.weakOrder hlt
  have htake : ∀ y ∈ long.take 1, ∀ x ∈ short, direction.ahead lt y x = true := by
    cases long with
    | nil => simp
    | cons y rest => simpa using hfirst
  have hgood := hs.takeLong horder htake
  have hkeeps := Merge.keeps_takeLong horder hs.within htake
  have hcame : (Merge.mk short long []).came = short ++ long := by simp [Merge.came]
  rw [hcame] at hkeeps
  rw [mergeFrom]
  by_cases hover : ((Merge.mk short long []).takeLong 1).isOver = true
  · rw [if_pos hover]
    obtain ⟨hsorted, hall⟩ := hgood.sorted horder hover
    exact ⟨_, start, rfl, hsorted, hall.trans hkeeps⟩
  · rw [if_neg hover]
    have hfuel : ((Merge.mk short long []).takeLong 1).left ≤ short.length + long.length := by
      simp [Merge.left, Merge.takeLong]
    obtain ⟨items, start', hrun, hsorted, hitems⟩ :=
      proceed_sorts hless hlt direction hgood (Bool.not_eq_true _ ▸ hover) hfuel
    exact ⟨items, start', hrun, hsorted, hitems.trans hkeeps⟩

end Steps

end Dossier.Sorting
