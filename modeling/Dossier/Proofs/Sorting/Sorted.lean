import Dossier.Proofs.Sorting.Runs

/-!
# Sorting sorts

Where a comparison answers for all items and orders them weakly, sorting gives them in order, those
that tie in the order they had. The runs that wait are sorted and hold, one after the other, what
was added so far; which of them are merged first makes no difference to that.
-/

set_option autoImplicit false

namespace Dossier.Sorting

variable {m : Type → Type} [Monad m] [LawfulMonad m] {α : Type}

variable {less : α → α → m Bool} {lt : α → α → Bool} {S : α → Prop}

namespace Pending

def items (p : Pending α) : List α := p.runs.reverse.flatMap (·.items)

structure Sound (lt : α → α → Bool) (S : α → Prop) (p : Pending α) (l : List α) : Prop where
  ordered : ∀ run ∈ p.runs, run.items.Pairwise (NotAfter lt S)
  keeps : Keeps lt S p.items l

variable {p : Pending α} {l run : List α}

theorem Sound.trans {l' : List α} (hp : p.Sound lt S l) (hl : Keeps lt S l l') : p.Sound lt S l' :=
  ⟨hp.ordered, hp.keeps.trans hl⟩

/-- Two neighbouring runs become one, wherever they wait. -/
theorem Sound.mergeTwo (hless : Answers less lt S) (hlt : WeakOrder lt S) (hS : ∀ x ∈ l, S x)
    (behind : List (Waiting α)) {before : List (Waiting α)}
      {left right : Waiting α} (hp : p.Sound lt S l)
    (hruns : p.runs = behind ++ right :: left :: before) :
    ∃ merged galloping', mergeTwo less p.galloping left right = pure (merged, galloping') ∧
      (Pending.mk (behind ++ merged :: before) galloping').Sound lt S l := by
  have hleft := hp.ordered left (by simp [hruns])
  have hright := hp.ordered right (by simp [hruns])
  have hitems : p.items = before.reverse.flatMap (·.items) ++ (left.items ++ right.items) ++
      behind.reverse.flatMap (·.items) := by
    simp [items, hruns]
  have hSitems := hp.keeps.within hS
  have hSpair : ∀ x ∈ left.items ++ right.items, S x := by
    intro x hx
    apply hSitems
    rw [hitems]
    exact List.mem_append_left _ (List.mem_append_right _ hx)
  obtain ⟨merged, galloping', hrun, hsorts⟩ := merge_sorts hless hlt p.galloping hSpair hleft hright
  refine ⟨⟨left.start, merged, left.power⟩, galloping', by
    rw [Pending.mergeTwo, hrun, pure_bind], ?_, ?_⟩
  · intro run hmem
    rcases List.mem_append.mp hmem with hmem | hmem
    · exact hp.ordered run (by simp [hruns, hmem])
    · rcases List.mem_cons.mp hmem with rfl | hmem
      · exact hsorts.ordered
      · exact hp.ordered run (by simp [hruns, hmem])
  · have hafter :
        (Pending.mk (behind ++ ⟨left.start, merged, left.power⟩ :: before) galloping').items =
        before.reverse.flatMap (·.items) ++ merged ++ behind.reverse.flatMap (·.items) := by
      simp [items]
    have hkeeps := hp.keeps
    rw [hitems] at hkeeps
    rw [hafter]
    exact (((Keeps.refl _).append hsorts.keeps).append (.refl _)).trans hkeeps

/-- Settling merges some of the last runs; a last run remains. -/
theorem Sound.settle (hless : Answers less lt S) (hlt : WeakOrder lt S) (hS : ∀ x ∈ l, S x)
    (power fuel : ℕ) (hp : p.Sound lt S l) (hsome : p.runs ≠ []) :
    ∃ p', settle less power fuel p = pure p' ∧ p'.Sound lt S l ∧ p'.runs ≠ [] := by
  induction fuel generalizing p with
  | zero => exact ⟨p, rfl, hp, hsome⟩
  | succ fuel ih =>
    rw [Pending.settle]
    split
    · next right left rest hruns =>
      split
      · obtain ⟨merged, galloping', hrun, hsound⟩ :=
          hp.mergeTwo hless hlt hS [] hruns
        rw [hrun, pure_bind]
        exact ih hsound (List.cons_ne_nil _ _)
      · exact ⟨p, rfl, hp, hsome⟩
    · exact ⟨p, rfl, hp, hsome⟩

theorem Sound.add (hless : Answers less lt S) (hlt : WeakOrder lt S) (hS : ∀ x ∈ l, S x) (count : ℕ)
    (hp : p.Sound lt S l) (hrun : run.Pairwise (NotAfter lt S)) :
    ∃ p', p.add less count run = pure p' ∧ p'.Sound lt S (l ++ run) := by
  rw [Pending.add]
  split
  · next hruns =>
    have hnone : Keeps lt S [] l := by
      have := hp.keeps
      rwa [items, hruns] at this
    refine ⟨_, rfl, ?_, ?_⟩
    · simpa using hrun
    · simpa [items] using hnone.append (.refl run)
  · next last rest hruns =>
    have hlast : p.runs ≠ [] := by simp [hruns]
    obtain ⟨p', hsettle, hp', hsome⟩ := hp.settle hless hlt hS
      (borderPower count (count + 1) (2 * last.start + last.items.length)
        (2 * last.start + last.items.length + last.items.length + run.length)) p.runs.length hlast
    simp only [hsettle, pure_bind]
    obtain ⟨last', rest', hruns'⟩ := List.exists_cons_of_ne_nil hsome
    rw [hruns']
    refine ⟨_, rfl, ?_, ?_⟩
    · intro run' hmem
      simp only [List.mem_cons] at hmem
      rcases hmem with rfl | rfl | hmem
      · exact hrun
      · exact hp'.ordered last' (by simp [hruns'])
      · exact hp'.ordered run' (by simp [hruns', hmem])
    · have hkeeps := hp'.keeps.append (.refl run)
      rw [items, hruns'] at hkeeps
      simpa [items] using hkeeps

/-- All runs become one. Each merge leaves one run less, so the fuel suffices. -/
theorem Sound.collapse (hless : Answers less lt S) (hlt : WeakOrder lt S) (hS : ∀ x ∈ l, S x)
    {fuel : ℕ} (hp : p.Sound lt S l) (hfuel : p.runs.length < fuel) :
    ∃ sorted, collapse less fuel p = pure sorted ∧ Sorts lt S sorted l := by
  induction fuel generalizing p with
  | zero => omega
  | succ fuel ih =>
    rw [Pending.collapse]
    split
    · next hruns =>
      have hkeeps := hp.keeps
      rw [items, hruns] at hkeeps
      exact ⟨[], rfl, .nil, hkeeps⟩
    · next run hruns =>
      have hkeeps := hp.keeps
      rw [items, hruns] at hkeeps
      exact ⟨run.items, rfl, hp.ordered run (by simp [hruns]), by simpa using hkeeps⟩
    · next right middle left rest hruns =>
      split
      · obtain ⟨merged, galloping', hrun, hsound⟩ :=
          hp.mergeTwo hless hlt hS [right] hruns
        rw [hrun, pure_bind]
        exact ih hsound (by simpa [hruns] using hfuel)
      · obtain ⟨merged, galloping', hrun, hsound⟩ :=
          hp.mergeTwo hless hlt hS [] hruns
        rw [hrun, pure_bind]
        exact ih hsound (by simpa [hruns] using hfuel)
    · next right left hruns =>
      obtain ⟨merged, galloping', hrun, hsound⟩ :=
        hp.mergeTwo hless hlt hS [] hruns
      have hfewer : [right, left].length < fuel + 1 := hruns ▸ hfuel
      rw [hrun, pure_bind]
      exact ih hsound (Nat.lt_of_succ_lt_succ hfewer)

end Pending

/-- Runs are added until no item is left; each takes at least one. -/
theorem addRuns_sound (hless : Answers less lt S) (hlt : WeakOrder lt S) (count : ℕ) {fuel : ℕ}
    {p : Pending α} {l rest : List α} (hS : ∀ x ∈ l ++ rest, S x) (hp : p.Sound lt S l)
    (hfuel : rest.length ≤ fuel) :
    ∃ p', addRuns less count fuel p rest = pure p' ∧ p'.Sound lt S (l ++ rest) := by
  induction fuel generalizing p l rest with
  | zero =>
    obtain rfl : rest = [] := List.eq_nil_of_length_eq_zero (Nat.le_zero.mp hfuel)
    rw [List.append_nil]
    exact ⟨p, rfl, hp⟩
  | succ fuel ih =>
    cases rest with
    | nil =>
      rw [List.append_nil]
      exact ⟨p, rfl, hp⟩
    | cons x rest =>
      have hSl : ∀ y ∈ l, S y := fun y hy => hS y (List.mem_append_left _ hy)
      have hSrest : ∀ y ∈ x :: rest, S y := fun y hy => hS y (List.mem_append_right _ hy)
      obtain ⟨run, more, hnext, hsome, hordered, hkeeps⟩ :=
        nextRun_sorts hless hlt (leastRun count) hSrest
      obtain ⟨p₁, hadd, hp₁⟩ := hp.add hless hlt hSl count hordered
      have hwhole : Keeps lt S (l ++ run ++ more) (l ++ x :: rest) := by
        rw [List.append_assoc]
        exact (Keeps.refl l).append hkeeps
      have hshorter : more.length ≤ fuel := by
        have hlength := hkeeps.perm.length_eq
        have hpos := List.length_pos_of_ne_nil hsome
        rw [List.length_append] at hlength
        omega
      obtain ⟨p', hrun, hp'⟩ := ih (hwhole.within hS) hp₁ hshorter
      rw [addRuns.eq_def]
      simp only [hnext, hadd, pure_bind]
      exact ⟨p', hrun, hp'.trans hwhole⟩

/-- Sorting puts items in order, those that tie in the order they had. -/
theorem sort_sorts (hless : Answers less lt S) (hlt : WeakOrder lt S)
    {l : List α} (hS : ∀ x ∈ l, S x) :
    ∃ sorted, sort less l = pure sorted ∧ Sorts lt S sorted l := by
  have hempty : (Pending.mk [] leastRow : Pending α).Sound lt S [] := ⟨by simp, .refl []⟩
  obtain ⟨p, hruns, hp⟩ := addRuns_sound hless hlt l.length hS hempty (Nat.le_refl l.length)
  rw [List.nil_append] at hp
  rw [sort]
  simp only [hruns, pure_bind]
  exact hp.collapse hless hlt hS (Nat.lt_succ_self _)

end Dossier.Sorting
