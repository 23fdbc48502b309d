import Dossier.Value.Order
import Dossier.Proofs.Sorting.Sorted
import Mathlib.Algebra.Order.Ring.Rat
import Mathlib.Data.String.Basic

/-!
# The order of atoms

Numbers go by their amounts and so do truth values, with truth as the lesser; two values of
different kinds go by their texts. Each rule on its own is a linear order of what it compares.
Together they are one order unless they cross: unless a value of another kind stands between two
numbers, or two truth values, by the texts, and they do not stand in this order by amount. Where no
keys cross, sorting has them in order, and the order they were given in matters for those alone that
compare equal.
-/

set_option autoImplicit false

namespace Dossier.Value

open Number

/-! ## Linear orders -/

section Linear

variable {α : Type} [LinearOrder α] [DecidableRel (α := α) (· < ·)] {a b c : α}

theorem orderOf_swap (a b : α) : orderOf b a = (orderOf a b).swap := by
  rcases lt_trichotomy a b with hlt | rfl | hlt
  · simp [orderOf, hlt, hlt.not_gt]
  · simp [orderOf]
  · simp [orderOf, hlt, hlt.not_gt]

theorem orderOf_ne_gt_iff : orderOf a b ≠ .gt ↔ a ≤ b := by
  rw [← not_lt, orderOf]
  rcases lt_trichotomy a b with hlt | rfl | hlt
  · simp [hlt, hlt.not_gt]
  · simp
  · simp [hlt, hlt.not_gt]

theorem orderOf_trans (hab : orderOf a b ≠ .gt) (hbc : orderOf b c ≠ .gt) : orderOf a c ≠ .gt :=
  orderOf_ne_gt_iff.mpr ((orderOf_ne_gt_iff.mp hab).trans (orderOf_ne_gt_iff.mp hbc))

end Linear

/-! ## Atoms -/

def IsAtom : Value → Prop
  | .null | .bool _ | .int _ | .text _ => True
  | .float x => x.isFinite = true
  | .date _ | .moment _ | .clock _ | .list _ | .object _ => False

inductive Scale where
  | truth
  | number
  deriving DecidableEq

def scale? : Value → Option Scale
  | .bool _ => some .truth
  | .int _ | .float _ => some .number
  | _ => none

def weight : Value → ℚ
  | .bool b => if b then 0 else 1
  | .int n => n
  | .float x => x.toRat?.getD 0
  | _ => 0

def Kin (a b : Value) : Prop := a.scale?.isSome ∧ a.scale? = b.scale?

instance (a b : Value) : Decidable (Kin a b) := inferInstanceAs (Decidable (_ ∧ _))

def atomOrder (a b : Value) : Ordering :=
  match a.isNull, b.isNull with
  | true, true => .eq
  | false, true => .lt
  | true, false => .gt
  | false, false => if Kin a b then orderOf a.weight b.weight else textOrder a b

variable {a b c x y z : Value}

theorem Kin.symm (h : Kin a b) : Kin b a := ⟨h.2 ▸ h.1, h.2.symm⟩

theorem Kin.trans (h : Kin a b) (h' : Kin b c) : Kin a c := ⟨h.1, h.2.trans h'.2⟩

theorem Kin.not_null (h : Kin a b) : a.isNull = false := by
  cases a with
  | null => cases h.1
  | _ => rfl

theorem textOrder_swap (a b : Value) : textOrder b a = (textOrder a b).swap := orderOf_swap _ _

theorem textOrder_trans (hab : textOrder a b ≠ .gt) (hbc : textOrder b c ≠ .gt) :
    textOrder a c ≠ .gt :=
  orderOf_trans hab hbc

theorem compare_eq_orderOf (m n : ℤ) : compare m n = orderOf (m : ℚ) n := by
  rcases lt_trichotomy m n with hlt | rfl | hlt
  · rw [compare_lt_iff_lt.mpr hlt, orderOf, if_pos (by exact_mod_cast hlt)]
  · simp [orderOf]
  · have hlt' : (n : ℚ) < m := by exact_mod_cast hlt
    rw [compare_gt_iff_gt.mpr hlt, orderOf, if_neg hlt'.not_gt, if_pos hlt']

/-- Numbers go by their exact amounts, whether they are integers or not. -/
theorem compare?_weight {m n : Numeric} (ha : a.IsAtom) (hb : b.IsAtom) (hm : a.amount? = some m)
    (hn : b.amount? = some n) : m.compare? n = some (orderOf a.weight b.weight) := by
  cases a with
  | int i =>
    cases hm
    cases b with
    | int j =>
      cases hn
      exact congrArg some (compare_eq_orderOf i j)
    | float y =>
      cases hn
      cases y with
      | finite => rfl
      | _ => cases hb
    | _ => cases hn
  | float x =>
    cases hm
    cases x with
    | finite =>
      cases b with
      | int j =>
        cases hn
        exact congrArg some (orderOf_swap _ _).symm
      | float y =>
        cases hn
        cases y with
        | finite => rfl
        | _ => cases hb
      | _ => cases hn
    | _ => cases ha
  | _ => cases hm

theorem order_numbers {m n : Numeric} (ha : a.IsAtom) (hb : b.IsAtom) (hm : a.amount? = some m)
    (hn : b.amount? = some n) : order a b = .ok (orderOf a.weight b.weight) := by
  have hcompare := compare?_weight ha hb hm hn
  cases a <;> cases hm <;> cases b <;> cases hn <;>
    exact congrArg (fun o : Option Ordering => Except.ok (o.getD .eq)) hcompare

theorem order_kin (ha : a.IsAtom) (hb : b.IsAtom) (hkin : Kin a b) :
    order a b = .ok (orderOf a.weight b.weight) := by
  cases a <;> cases b
  case bool.bool x y => cases x <;> cases y <;> rfl
  case int.int | int.float | float.int | float.float => exact order_numbers ha hb rfl rfl
  all_goals simp [Kin, scale?] at hkin

theorem order_texts (ha : a.IsAtom) (hb : b.IsAtom) (ha' : a.isNull = false)
    (hb' : b.isNull = false) (hkin : ¬ Kin a b) : order a b = .ok (textOrder a b) := by
  cases a <;> cases b <;> simp_all [order, amount?, timeOrder?, Kin, scale?, isNull, IsAtom]

theorem order_atoms (ha : a.IsAtom) (hb : b.IsAtom) : order a b = .ok (atomOrder a b) := by
  unfold atomOrder
  split
  · next ha' hb' =>
    cases a <;> cases ha'
    cases b <;> cases hb'
    rfl
  · next ha' hb' =>
    cases b <;> cases hb'
    cases a <;> first | rfl | cases ha'
  · next ha' hb' =>
    cases a <;> cases ha'
    cases b <;> first | rfl | cases hb'
  · next ha' hb' =>
    split
    · next hkin => exact order_kin ha hb hkin
    · next hkin => exact order_texts ha hb ha' hb' hkin

theorem atomOrder_swap (a b : Value) : atomOrder b a = (atomOrder a b).swap := by
  unfold atomOrder
  cases a.isNull <;> cases b.isNull
  case false.false =>
    by_cases hkin : Kin a b
    · simp only [if_pos hkin, if_pos hkin.symm]
      exact orderOf_swap _ _
    · simp only [if_neg hkin, if_neg (mt Kin.symm hkin)]
      exact textOrder_swap _ _
  all_goals rfl

theorem atomOrder_kin (hkin : Kin a b) : atomOrder a b = orderOf a.weight b.weight := by
  simp only [atomOrder, hkin.not_null, hkin.symm.not_null, if_pos hkin]

theorem atomOrder_texts (ha : a.isNull = false) (hb : b.isNull = false) (hkin : ¬ Kin a b) :
    atomOrder a b = textOrder a b := by
  simp only [atomOrder, ha, hb, if_neg hkin]

theorem atomOrder_null (hb : b.isNull = true) : atomOrder a b ≠ .gt := by
  unfold atomOrder
  cases a.isNull <;> simp [hb]

theorem null_of_atomOrder (ha : a.isNull = true) (hab : atomOrder a b ≠ .gt) : b.isNull = true := by
  cases hb : b.isNull
  · simp [atomOrder, ha, hb] at hab
  · rfl

/-! ## Crossing -/

/-- By the texts a value of another kind stands between two of one kind, `x` first, while `x` counts
no less than `y`. When the three tie throughout there is no order to speak of. -/
structure Crosses (x z y : Value) : Prop where
  kin : Kin x y
  apart : ¬ Kin x z
  not_null : z.isNull = false
  above : textOrder x z ≠ .gt
  below : textOrder z y ≠ .gt
  against : y.weight ≤ x.weight
  strict : ¬ (textOrder x z = .eq ∧ textOrder z y = .eq ∧ x.weight = y.weight)

instance (x z y : Value) : Decidable (Crosses x z y) :=
  decidable_of_iff (Kin x y ∧ ¬ Kin x z ∧ z.isNull = false ∧ textOrder x z ≠ .gt ∧
      textOrder z y ≠ .gt ∧ y.weight ≤ x.weight ∧
      ¬ (textOrder x z = .eq ∧ textOrder z y = .eq ∧ x.weight = y.weight))
    ⟨fun ⟨hkin, hapart, hz, habove, hbelow, hagainst, hstrict⟩ =>
      ⟨hkin, hapart, hz, habove, hbelow, hagainst, hstrict⟩,
    fun h => ⟨h.kin, h.apart, h.not_null, h.above, h.below, h.against, h.strict⟩⟩

def Uncrossed (values : List Value) : Prop :=
  ∀ x ∈ values, ∀ z ∈ values, ∀ y ∈ values, ¬ Crosses x z y

instance (values : List Value) : Decidable (Uncrossed values) :=
  inferInstanceAs (Decidable (∀ x ∈ values, ∀ z ∈ values, ∀ y ∈ values, ¬ Crosses x z y))

theorem textOrder_lt (h : textOrder a b = .gt) : textOrder b a = .lt := by
  rw [textOrder_swap, h]
  rfl

/-- The order passes over a third value, whichever two of the three are kin. -/
theorem atomOrder_trans (huncrossed : Uncrossed [a, b, c]) (hab : atomOrder a b ≠ .gt)
    (hbc : atomOrder b c ≠ .gt) : atomOrder a c ≠ .gt := by
  cases hc : c.isNull with
  | true => exact atomOrder_null hc
  | false =>
  have hb : b.isNull = false := by
    by_contra hb
    rw [null_of_atomOrder (Bool.not_eq_false _ ▸ hb) hbc] at hc
    cases hc
  have ha : a.isNull = false := by
    by_contra ha
    rw [null_of_atomOrder (Bool.not_eq_false _ ▸ ha) hab] at hb
    cases hb
  by_cases hkab : Kin a b <;> by_cases hkbc : Kin b c
  · rw [atomOrder_kin hkab] at hab
    rw [atomOrder_kin hkbc] at hbc
    rw [atomOrder_kin (hkab.trans hkbc)]
    exact orderOf_trans hab hbc
  · have hkac : ¬ Kin a c := fun hkac => hkbc (hkab.symm.trans hkac)
    rw [atomOrder_kin hkab, orderOf_ne_gt_iff] at hab
    rw [atomOrder_texts hb hc hkbc] at hbc
    rw [atomOrder_texts ha hc hkac]
    by_contra hca
    have hlt := textOrder_lt hca
    exact huncrossed b (by simp) c (by simp) a (by simp)
      ⟨hkab.symm, hkbc, hc, hbc, by simp [hlt], hab, by simp [hlt]⟩
  · have hkac : ¬ Kin a c := fun hkac => hkab (hkac.trans hkbc.symm)
    rw [atomOrder_texts ha hb hkab] at hab
    rw [atomOrder_kin hkbc, orderOf_ne_gt_iff] at hbc
    rw [atomOrder_texts ha hc hkac]
    by_contra hca
    have hlt := textOrder_lt hca
    exact huncrossed c (by simp) a (by simp) b (by simp)
      ⟨hkbc.symm, mt Kin.symm hkac, ha, by simp [hlt], hab, hbc, by simp [hlt]⟩
  · rw [atomOrder_texts ha hb hkab] at hab
    rw [atomOrder_texts hb hc hkbc] at hbc
    by_cases hkac : Kin a c
    · rw [atomOrder_kin hkac, orderOf_ne_gt_iff]
      by_contra hca
      have hlt := not_le.mp hca
      exact huncrossed a (by simp) b (by simp) c (by simp)
        ⟨hkac, hkab, hb, hab, hbc, hlt.le, fun h => hlt.ne' h.2.2⟩
    · rw [atomOrder_texts ha hc hkac]
      exact textOrder_trans hab hbc

theorem atomOrder_eq (hab : atomOrder a b ≠ .gt) (hba : atomOrder b a ≠ .gt) :
    atomOrder a b = .eq := by
  rw [atomOrder_swap] at hba
  cases h : atomOrder a b with
  | lt => exact absurd (by rw [h]; rfl) hba
  | eq => rfl
  | gt => exact absurd h hab

/-- Three values that cross are not in one order. -/
theorem Crosses.not_trans (hcross : Crosses x z y)
    (htrans : ∀ a ∈ [x, y, z], ∀ b ∈ [x, y, z], ∀ c ∈ [x, y, z],
      atomOrder a b ≠ .gt → atomOrder b c ≠ .gt → atomOrder a c ≠ .gt) : False := by
  obtain ⟨hkin, hapart, hz, habove, hbelow, hagainst, hstrict⟩ := hcross
  have hkzy : ¬ Kin z y := fun h => hapart (hkin.trans h.symm)
  have hxz := atomOrder_texts hkin.not_null hz hapart
  have hzy := atomOrder_texts hz hkin.symm.not_null hkzy
  rw [← hxz] at habove
  rw [← hzy] at hbelow
  have hxy := htrans x (by simp) z (by simp) y (by simp) habove hbelow
  have hyx : atomOrder y x ≠ .gt := by rwa [atomOrder_kin hkin.symm, orderOf_ne_gt_iff]
  have hyz := htrans y (by simp) x (by simp) z (by simp) hyx habove
  have hzx := htrans z (by simp) y (by simp) x (by simp) hbelow hyx
  apply hstrict
  rw [← hxz, ← hzy]
  refine ⟨atomOrder_eq habove hzx, atomOrder_eq hbelow hyz, ?_⟩
  rw [atomOrder_kin hkin, orderOf_ne_gt_iff] at hxy
  exact le_antisymm hxy hagainst

/-- Values that are null or of one kind do not cross. -/
theorem uncrossed_of_one_kind {values : List Value}
    (h : ∀ x ∈ values, ∀ y ∈ values, x.isNull = false → y.isNull = false → x.scale? = y.scale?) :
    Uncrossed values := by
  intro x hx z hz y hy hcross
  exact hcross.apart ⟨hcross.kin.1, h x hx z hz hcross.kin.not_null hcross.not_null⟩

theorem Uncrossed.subset {values values' : List Value} (h : Uncrossed values)
    (hsub : ∀ v ∈ values', v ∈ values) : Uncrossed values' :=
  fun x hx z hz y hy => h x (hsub x hx) z (hsub z hz) y (hsub y hy)

/-! ## Comparing -/

def AtMost (a b : Value) : Prop := order a b = .ok .lt ∨ order a b = .ok .eq

theorem atMost_iff (ha : a.IsAtom) (hb : b.IsAtom) : AtMost a b ↔ atomOrder a b ≠ .gt := by
  rw [AtMost, order_atoms ha hb]
  cases atomOrder a b <;> simp

/-- Values are in one order exactly when no three of them cross. -/
theorem atMost_trans_iff {values : List Value} (hatoms : ∀ v ∈ values, v.IsAtom) :
    (∀ a ∈ values, ∀ b ∈ values, ∀ c ∈ values, AtMost a b → AtMost b c → AtMost a c) ↔
      Uncrossed values := by
  constructor
  · intro htrans x hx z hz y hy hcross
    apply hcross.not_trans
    have hmem : ∀ v ∈ [x, y, z], v ∈ values := by simp [hx, hy, hz]
    intro a ha b hb c hc
    have := htrans a (hmem a ha) b (hmem b hb) c (hmem c hc)
    rwa [atMost_iff (hatoms a (hmem a ha)) (hatoms b (hmem b hb)),
      atMost_iff (hatoms b (hmem b hb)) (hatoms c (hmem c hc)),
      atMost_iff (hatoms a (hmem a ha)) (hatoms c (hmem c hc))] at this
  · intro huncrossed a ha b hb c hc
    rw [atMost_iff (hatoms a ha) (hatoms b hb), atMost_iff (hatoms b hb) (hatoms c hc),
      atMost_iff (hatoms a ha) (hatoms c hc)]
    exact atomOrder_trans (huncrossed.subset (by simp [ha, hb, hc]))

/-! ## Sorting -/

section Sorting

variable {α : Type} {key : α → Value} {items items' : List α}

def precedes (key : α → Value) (x y : α) : Bool := atomOrder (key x) (key y) == .lt

def Keyed (key : α → Value) (values : List Value) (x : α) : Prop := key x ∈ values

theorem answers_order {values : List Value} (hatoms : ∀ v ∈ values, v.IsAtom) :
    Sorting.Answers (m := Except Failure) (fun x y => (order (key x) (key y)).map (· == .lt))
      (precedes key) (Keyed key values) := by
  intro x y hx hy
  simp only [order_atoms (hatoms _ hx) (hatoms _ hy)]
  rfl

theorem precedes_eq_false {x y : α} :
    precedes key y x = false ↔ atomOrder (key x) (key y) ≠ .gt := by
  rw [precedes, atomOrder_swap (key x) (key y)]
  cases atomOrder (key x) (key y) <;> simp [Ordering.swap]

theorem weakOrder_precedes {values : List Value} (huncrossed : Uncrossed values) :
    Sorting.WeakOrder (precedes key) (Keyed key values) where
  asymm := by
    intro x y _ _ hxy
    rw [precedes_eq_false]
    simp only [precedes, beq_iff_eq] at hxy
    simp [hxy]
  trans := by
    intro x y z hx hy hz hyx hzy
    rw [precedes_eq_false] at hyx hzy ⊢
    refine atomOrder_trans (huncrossed.subset ?_) hyx hzy
    simpa [Keyed] using ⟨hx, hy, hz⟩

theorem sortBy_sorts (hatoms : ∀ v ∈ items.map key, v.IsAtom)
    (huncrossed : Uncrossed (items.map key)) :
    ∃ sorted, sortBy key items = .ok sorted ∧
      Sorting.Sorts (precedes key) (Keyed key (items.map key)) sorted items :=
  Sorting.sort_sorts (answers_order hatoms) (weakOrder_precedes huncrossed)
    fun _ hx => List.mem_map_of_mem hx

def InOrder (key : α → Value) (sorted : List α) : Prop :=
  sorted.Pairwise fun x y => order (key y) (key x) ≠ .ok .lt

theorem inOrder_of_sorts (hatoms : ∀ v ∈ items.map key, v.IsAtom) {sorted : List α}
    (hsorts : Sorting.Sorts (precedes key) (Keyed key (items.map key)) sorted items) :
    InOrder key sorted := by
  refine hsorts.ordered.imp fun {x y} hxy => ?_
  obtain ⟨hx, hy, hyx⟩ := hxy
  rw [order_atoms (hatoms _ hy) (hatoms _ hx)]
  intro hlt
  simp [precedes, Except.ok.inj hlt] at hyx

theorem order_eq_of_ties {values : List Value} (hatoms : ∀ v ∈ values, v.IsAtom) {x y : α}
    (hx : Keyed key values x) (hy : Keyed key values y)
    (hties : Sorting.ties (precedes key) x y = true) : order (key x) (key y) = .ok .eq := by
  simp only [Sorting.ties, Bool.and_eq_true, Bool.not_eq_true'] at hties
  rw [order_atoms (hatoms _ hx) (hatoms _ hy),
    atomOrder_eq (precedes_eq_false.mp hties.2) (precedes_eq_false.mp hties.1)]

/-- The order that items were given in decides among those alone that compare equal. -/
theorem sortBy_perm (hatoms : ∀ v ∈ items.map key, v.IsAtom)
    (huncrossed : Uncrossed (items.map key)) {sorted : List α}
    (hsorts : Sorting.Sorts (precedes key) (Keyed key (items.map key)) sorted items)
    (hperm : items'.Perm items) :
    ∃ sorted', sortBy key items' = .ok sorted' ∧ sorted'.Perm items ∧
      List.Forall₂ (fun x y => order (key x) (key y) = .ok .eq) sorted' sorted := by
  have hkeyed' : ∀ x ∈ items', Keyed key (items.map key) x :=
    fun x hx => List.mem_map_of_mem (hperm.mem_iff.mp hx)
  have hlt : Sorting.WeakOrder (precedes key) (Keyed key (items.map key)) :=
    weakOrder_precedes huncrossed
  obtain ⟨sorted', hsort', hsorts'⟩ := Sorting.sort_sorts (answers_order hatoms) hlt hkeyed'
  have hperm' := hsorts'.keeps.perm.trans hperm
  have hkeyed : ∀ x ∈ sorted, Keyed key (items.map key) x :=
    fun x hx => List.mem_map_of_mem (hsorts.keeps.perm.mem_iff.mp hx)
  have hkeyed'' : ∀ x ∈ sorted', Keyed key (items.map key) x :=
    fun x hx => List.mem_map_of_mem (hperm'.mem_iff.mp hx)
  have hties := Sorting.ties_of_counts hlt hsorts'.ordered hsorts.ordered hkeyed'' hkeyed
    fun c _ => (hperm'.trans hsorts.keeps.perm.symm).countP_eq _
  refine ⟨sorted', hsort', hperm', List.forall₂_iff_zip.mpr ⟨hties.length_eq, fun {x y} hxy => ?_⟩⟩
  have hmem := List.of_mem_zip hxy
  exact order_eq_of_ties hatoms (hkeyed'' x hmem.1) (hkeyed y hmem.2) (List.forall₂_zip hties hxy)

/-- Comparing the other way round gives the opposite answer. Values are in one order exactly when no
three of them cross, and values that are null or of one kind never do. Sorting under keys that are
in one order gives all items, none before one that is less, and their classes in an order of their
own. -/
theorem order_sortBy (key : α → Value) :
    (∀ a b : Value, a.IsAtom → b.IsAtom → ∃ o, order a b = .ok o ∧ order b a = .ok o.swap) ∧
    (∀ values : List Value, (∀ v ∈ values, v.IsAtom) →
      ((∀ a ∈ values, ∀ b ∈ values, ∀ c ∈ values, AtMost a b → AtMost b c → AtMost a c) ↔
        Uncrossed values)) ∧
    (∀ values : List Value,
      (∀ x ∈ values, ∀ y ∈ values, x.isNull = false → y.isNull = false → x.scale? = y.scale?) →
        Uncrossed values) ∧
    ∀ items : List α, (∀ v ∈ items.map key, v.IsAtom) → Uncrossed (items.map key) →
      ∃ sorted, sortBy key items = .ok sorted ∧ sorted.Perm items ∧ InOrder key sorted ∧
        ∀ items' : List α, items'.Perm items →
          ∃ sorted', sortBy key items' = .ok sorted' ∧ sorted'.Perm items ∧
            List.Forall₂ (fun x y => order (key x) (key y) = .ok .eq) sorted' sorted := by
  refine ⟨fun a b ha hb => ?_, fun values hatoms => atMost_trans_iff hatoms,
    fun values => uncrossed_of_one_kind, fun items hatoms huncrossed => ?_⟩
  · refine ⟨atomOrder a b, order_atoms ha hb, ?_⟩
    rw [order_atoms hb ha, atomOrder_swap]
  · obtain ⟨sorted, hsort, hsorts⟩ := sortBy_sorts hatoms huncrossed
    exact ⟨sorted, hsort, hsorts.keeps.perm, inOrder_of_sorts hatoms hsorts,
      fun items' hperm => sortBy_perm hatoms huncrossed hsorts hperm⟩

end Sorting

/-- Two numbers, a text and null in one order: the text stands behind both numbers. -/
theorem order_sortBy_row :
    Uncrossed [.text "b", .int 10, .null, .int 9] ∧
    sortBy id [.text "b", .int 10, .null, .int 9] = .ok [.int 9, .int 10, .text "b", .null] ∧
    ∃ sorted, sortBy id [.text "b", .int 10, .null, .int 9] = .ok sorted ∧
      sorted.Perm [.text "b", .int 10, .null, .int 9] ∧ InOrder id sorted := by
  have hatoms : ∀ v ∈ [Value.text "b", .int 10, .null, .int 9], v.IsAtom := by simp [IsAtom]
  have huncrossed : Uncrossed [.text "b", .int 10, .null, .int 9] := by decide +kernel
  obtain ⟨-, -, -, hsort⟩ := order_sortBy (id : Value → Value)
  obtain ⟨sorted, hrun, hperm, horder, -⟩ :=
    hsort [.text "b", .int 10, .null, .int 9] (by simpa using hatoms) (by simpa using huncrossed)
  exact ⟨huncrossed, rfl, sorted, hrun, hperm, horder⟩

/-- By its text "1." stands between 1 and 1.0, which are equal as numbers, so the three are not in
one order, and sorting leaves 1.0 in front of what is less. -/
theorem one_with_point_between :
    AtMost (.text "1.") (.float (.ofRat 1)) ∧ AtMost (.float (.ofRat 1)) (.int 1) ∧
      ¬ AtMost (.text "1.") (.int 1) ∧
      sortBy id [.float (.ofRat 1), .int 1, .text "1."] =
        .ok [.float (.ofRat 1), .int 1, .text "1."] ∧
      order (.text "1.") (.float (.ofRat 1)) = .ok .lt := by
  have hlt : order (.text "1.") (.float (.ofRat 1)) = .ok .lt := rfl
  have heq : order (.float (.ofRat 1)) (.int 1) = .ok .eq := rfl
  have hgt : order (.text "1.") (.int 1) = .ok .gt := rfl
  refine ⟨.inl hlt, .inr heq, ?_, rfl, hlt⟩
  simp [AtMost, hgt]

end Dossier.Value
