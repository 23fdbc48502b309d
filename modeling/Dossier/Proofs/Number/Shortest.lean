import Dossier.Proofs.Number.Nearest
import Mathlib.Data.List.Pairwise

/-!
# The shortest digits read back

The search goes through the grids of one to seventeen digits and takes the first neighbour that
reads back. On the grid of seventeen digits the nearer neighbour always does, so there always is
one. What is found lies between the same powers of ten as the number, the upper one included. A
whole number that is smaller than `2 ^ 53` is found exactly.
-/

set_option autoImplicit false

namespace Dossier.Number.Decimal

variable {negative : Bool} {m n d c : ℕ} {e unit top : ℤ} {x : Binary} {found : Decimal}

/-! ## Final zeros -/

theorem trimZeros_size (fuel c : ℕ) (e : ℤ) :
    ((trimZeros fuel c e).1 : ℚ) * 10 ^ (trimZeros fuel c e).2 = c * 10 ^ e := by
  induction fuel generalizing c e with
  | zero => rfl
  | succ fuel ih =>
    rw [trimZeros]
    split
    case isTrue hzero =>
      rw [ih, zpow_add_one₀ (by norm_num), mul_comm ((10 : ℚ) ^ e), ← mul_assoc]
      congr 1
      exact_mod_cast Nat.div_mul_cancel (Nat.dvd_of_mod_eq_zero hzero.2)
    case isFalse => rfl

def trimmed (x : Decimal) : Decimal :=
  ⟨x.negative, (trimZeros (digitCount x.coefficient) x.coefficient x.exponent).1,
    (trimZeros (digitCount x.coefficient) x.coefficient x.exponent).2⟩

theorem trimmed_size (x : Decimal) : x.trimmed.size = x.size := trimZeros_size _ _ _

/-! ## One grid -/

def units (x : Binary) (unit : ℤ) (c : ℕ) : Decimal := ⟨x.isNegative, c, unit⟩

theorem onGrid?_some (hfound : onGrid? x unit n d = some found) :
    found.toBinary = x ∧ (found = units x unit (n / d) ∨ found = units x unit (n / d + 1)) := by
  simp only [onGrid?, Bool.and_eq_true, decide_eq_true_eq] at hfound
  split at hfound
  case isTrue hlow =>
    cases hfound
    exact ⟨hlow.2, .inl rfl⟩
  split at hfound
  case isTrue hboth =>
    split at hfound
    · cases hfound
      exact ⟨hboth.1, .inl rfl⟩
    split at hfound
    · cases hfound
      exact ⟨hboth.2, .inr rfl⟩
    rcases Nat.mod_two_eq_zero_or_one (n / d) with heven | hodd
    · rw [heven, Nat.add_zero] at hfound
      cases hfound
      exact ⟨hboth.1, .inl rfl⟩
    · rw [hodd] at hfound
      cases hfound
      exact ⟨hboth.2, .inr rfl⟩
  split at hfound
  case isTrue hlow =>
    cases hfound
    exact ⟨hlow, .inl rfl⟩
  split at hfound
  case isTrue hhigh =>
    cases hfound
    exact ⟨hhigh, .inr rfl⟩
  cases hfound

theorem onGrid?_none (hnone : onGrid? x unit n d = none) :
    (units x unit (n / d)).toBinary ≠ x ∧ (units x unit (n / d + 1)).toBinary ≠ x := by
  simp only [onGrid?, Bool.and_eq_true, decide_eq_true_eq] at hnone
  split at hnone
  · cases hnone
  split at hnone
  · split at hnone
    · cases hnone
    split at hnone <;> cases hnone
  split at hnone
  · cases hnone
  case isFalse hlow =>
    split at hnone
    · cases hnone
    case isFalse hhigh => exact ⟨hlow, hhigh⟩

/-- The neighbours on a grid do not leave the powers of ten around a number. -/
theorem units_between (hd : 0 < d) (hunit : unit ≤ top) (hlow : (10 : ℚ) ^ top ≤ n / d * 10 ^ unit)
    (hhigh : (n : ℚ) / d * 10 ^ unit < 10 ^ (top + 1)) (hc : c = n / d ∨ c = n / d + 1) :
    (10 : ℚ) ^ top ≤ c * 10 ^ unit ∧ (c : ℚ) * 10 ^ unit ≤ 10 ^ (top + 1) := by
  obtain ⟨j, rfl⟩ : ∃ j : ℕ, top = j + unit := ⟨(top - unit).toNat, by omega⟩
  have hten := ten_zpow_pos unit
  have hd0 : (0 : ℚ) < d := by exact_mod_cast hd
  have hsucc : (10 : ℚ) ^ ((j : ℤ) + unit + 1) = 10 ^ (j + 1) * 10 ^ unit := by
    rw [add_right_comm, zpow_add₀ (by norm_num)]
    norm_cast
  rw [zpow_add₀ (by norm_num), zpow_natCast] at hlow ⊢
  rw [hsucc] at hhigh ⊢
  have hlow' : 10 ^ j ≤ n / d := by
    have := le_of_mul_le_mul_right hlow hten
    rw [le_div_iff₀ hd0] at this
    exact (Nat.le_div_iff_mul_le hd).mpr (by exact_mod_cast this)
  have hhigh' : n / d + 1 ≤ 10 ^ (j + 1) := by
    have := lt_of_mul_lt_mul_right hhigh hten.le
    rw [div_lt_iff₀ hd0] at this
    exact (Nat.div_lt_iff_lt_mul hd).mpr (by exact_mod_cast this)
  have hc1 : (10 : ℚ) ^ j ≤ c := by
    have : 10 ^ j ≤ c := by omega
    exact_mod_cast this
  have hc2 : (c : ℚ) ≤ 10 ^ (j + 1) := by
    have : c ≤ 10 ^ (j + 1) := by omega
    exact_mod_cast this
  exact ⟨mul_le_mul_of_nonneg_right hc1 hten.le, mul_le_mul_of_nonneg_right hc2 hten.le⟩

theorem roundDiv_neighbour (n d : ℕ) : roundDiv n d = n / d ∨ roundDiv n d = n / d + 1 := by
  simp only [roundDiv]
  split
  · exact .inl rfl
  split
  · exact .inr rfl
  rcases Nat.mod_two_eq_zero_or_one (n / d) with heven | hodd
  · exact .inl (by rw [heven, Nat.add_zero])
  · exact .inr (by rw [hodd])

/-! ## The search -/

def leadingPlace (m : ℕ) (e : ℤ) : ℤ := log10Div (Binary.quotient m e).1 (Binary.quotient m e).2

def behindLeading? (negative : Bool) (m : ℕ) (e : ℤ) (k : ℕ) : Option Decimal :=
  let grid := gridQuotient (Binary.quotient m e).1 (Binary.quotient m e).2 (leadingPlace m e - k)
  onGrid? (.finite negative m e) (leadingPlace m e - k) grid.1 grid.2

def firstFound? (negative : Bool) (m : ℕ) (e : ℤ) : Option Decimal :=
  (List.range 17).findSome? (behindLeading? negative m e)

theorem leadingPlace_bounds (hm : m ≠ 0) :
    (10 : ℚ) ^ leadingPlace m e ≤ m * 2 ^ e ∧ (m : ℚ) * 2 ^ e < 10 ^ (leadingPlace m e + 1) := by
  have hpos : 0 < (Binary.quotient m e).1 := by
    rw [Binary.quotient]
    split
    · exact Nat.mul_pos (Nat.pos_of_ne_zero hm) (powerOfTwo_pos _)
    · exact Nat.pos_of_ne_zero hm
  rw [← quotient_value]
  exact log10Div_bounds hpos (quotient_pos m e)

section Grid

variable (m e unit)

/-- A grid with its quotient: its value is the number in units of the grid. -/
theorem grid_value :
    ((gridQuotient (Binary.quotient m e).1 (Binary.quotient m e).2 unit).1 : ℚ) /
      (gridQuotient (Binary.quotient m e).1 (Binary.quotient m e).2 unit).2 * 10 ^ unit =
        m * 2 ^ e := by
  rw [gridQuotient_value, quotient_value, div_mul_cancel₀ _ (ten_zpow_pos unit).ne']

end Grid

variable {k : ℕ}

theorem behindLeading?_some (hm : m ≠ 0) (hfound : behindLeading? negative m e k = some found) :
    found.negative = negative ∧ found.exponent = leadingPlace m e - k ∧
      found.toBinary = .finite negative m e ∧
      (10 : ℚ) ^ leadingPlace m e ≤ found.size ∧ found.size ≤ 10 ^ (leadingPlace m e + 1) := by
  obtain ⟨hreads, hunits⟩ := onGrid?_some hfound
  obtain ⟨hlow, hhigh⟩ := leadingPlace_bounds (e := e) hm
  rw [← grid_value m e (leadingPlace m e - k)] at hlow hhigh
  have hunit : leadingPlace m e - k ≤ leadingPlace m e := by omega
  have hpos :=
    gridQuotient_pos (n := (Binary.quotient m e).1) (quotient_pos m e) (leadingPlace m e - k)
  rcases hunits with rfl | rfl
  · obtain ⟨hbelow, habove⟩ := units_between hpos hunit hlow hhigh (.inl rfl)
    exact ⟨rfl, rfl, hreads, hbelow, habove⟩
  · obtain ⟨hbelow, habove⟩ := units_between hpos hunit hlow hhigh (.inr rfl)
    exact ⟨rfl, rfl, hreads, hbelow, habove⟩

/-- On the grid of seventeen digits the nearer neighbour reads back. -/
theorem behindLeading?_last (hcanonical : Binary.Canonical (.finite negative m e)) (hm : m ≠ 0) :
    behindLeading? negative m e 16 ≠ none := by
  intro hnone
  obtain ⟨hlow, hhigh⟩ := onGrid?_none hnone
  have hleading := (leadingPlace_bounds (e := e) hm).1
  have hpos := gridQuotient_pos (n := (Binary.quotient m e).1) (quotient_pos m e)
    (leadingPlace m e - (16 : ℕ))
  have hvalue := grid_value m e (leadingPlace m e - (16 : ℕ))
  have hunit := ten_zpow_pos (leadingPlace m e - (16 : ℕ))
  have hsplit : (10 : ℚ) ^ leadingPlace m e = 10 ^ 16 * 10 ^ (leadingPlace m e - (16 : ℕ)) := by
    rw [← zpow_natCast, ← zpow_add₀ (by norm_num), add_sub_cancel]
  generalize leadingPlace m e - (16 : ℕ) = unit at *
  generalize gridQuotient (Binary.quotient m e).1 (Binary.quotient m e).2 unit = grid at *
  have hreads : (units (.finite negative m e) unit (roundDiv grid.1 grid.2)).toBinary =
      .finite negative m e := by
    refine toBinary_near (x := units (.finite negative m e) unit _) hcanonical hm ?_
    have herror := roundDiv_error (n := grid.1) hpos
    have hdistance :
        |(roundDiv grid.1 grid.2 : ℚ) * 10 ^ unit - m * 2 ^ e| ≤ 1 / 2 * 10 ^ unit := by
      rw [← hvalue, ← sub_mul, abs_mul, abs_of_pos hunit, abs_sub_comm]
      exact mul_le_mul_of_nonneg_right herror hunit.le
    rw [size]
    change |(roundDiv grid.1 grid.2 : ℚ) * 10 ^ unit - m * 2 ^ e| * 2 ^ 54 < m * 2 ^ e
    rw [hsplit] at hleading
    norm_num at hdistance hleading ⊢
    linarith
  rcases roundDiv_neighbour grid.1 grid.2 with hround | hround
  · rw [hround] at hreads
    exact hlow hreads
  · rw [hround] at hreads
    exact hhigh hreads

/-- Something is found, and nothing on the grids before. -/
theorem firstFound?_some (hcanonical : Binary.Canonical (.finite negative m e)) (hm : m ≠ 0) :
    ∃ found k, firstFound? negative m e = some found ∧ behindLeading? negative m e k = some found ∧
      ∀ j < k, behindLeading? negative m e j = none := by
  cases hfound : firstFound? negative m e with
  | none =>
    have hnone := List.findSome?_eq_none_iff.mp hfound 16 (by decide)
    exact absurd hnone (behindLeading?_last hcanonical hm)
  | some found =>
    obtain ⟨before, k, after, hsplit, hk, hbefore⟩ := List.findSome?_eq_some_iff.mp hfound
    refine ⟨found, k, rfl, hk, fun j hj => ?_⟩
    have hsorted : (before ++ k :: after).Pairwise (· < ·) := hsplit ▸ List.pairwise_lt_range
    have hk17 : k < 17 := List.mem_range.mp (hsplit ▸ by simp)
    have hmem : j ∈ before ++ k :: after := hsplit ▸ List.mem_range.mpr (hj.trans hk17)
    rw [List.mem_append, List.mem_cons] at hmem
    rcases hmem with hmem | rfl | hmem
    · exact hbefore j hmem
    · exact absurd hj (lt_irrefl _)
    · have := (List.pairwise_cons.mp (List.pairwise_append.mp hsorted).2.1).1 j hmem
      omega

theorem shortest_zero (negative : Bool) (e : ℤ) : shortest negative 0 e = ⟨negative, 0, 0⟩ := rfl

theorem shortest_eq (hm : m ≠ 0) (hfound : firstFound? negative m e = some found)
    (hsign : found.negative = negative) : shortest negative m e = found.trimmed := by
  have hhit : ((List.range 17).findSome? fun (k : ℕ) =>
      onGrid? (.finite negative m e) (leadingPlace m e - k)
        (gridQuotient (Binary.quotient m e).1 (Binary.quotient m e).2 (leadingPlace m e - k)).1
        (gridQuotient (Binary.quotient m e).1 (Binary.quotient m e).2 (leadingPlace m e - k)).2) =
      some found := hfound
  rw [shortest, if_neg hm, trimmed, hsign]
  simp only [leadingPlace] at hhit
  simp only [hhit, Option.getD_some]

/-- The decimal that is found and what it is cut from. -/
theorem shortest_found (hcanonical : Binary.Canonical (.finite negative m e)) (hm : m ≠ 0) :
    ∃ found k, shortest negative m e = trimmed found ∧
      behindLeading? negative m e k = some found ∧
        ∀ j < k, behindLeading? negative m e j = none := by
  obtain ⟨found, k, hfirst, hk, hbefore⟩ := firstFound?_some hcanonical hm
  exact ⟨found, k, shortest_eq hm hfirst (behindLeading?_some hm hk).1, hk, hbefore⟩

/-- What is found lies between the powers of ten around the number. -/
theorem shortest_between (hcanonical : Binary.Canonical (.finite negative m e)) (hm : m ≠ 0) :
    (10 : ℚ) ^ leadingPlace m e ≤ (shortest negative m e).size ∧
      (shortest negative m e).size ≤ 10 ^ (leadingPlace m e + 1) := by
  obtain ⟨found, k, hshortest, hk, -⟩ := shortest_found hcanonical hm
  obtain ⟨-, -, -, hlow, hhigh⟩ := behindLeading?_some hm hk
  rw [hshortest, trimmed_size]
  exact ⟨hlow, hhigh⟩

/-- The shortest digits of a number read back as that number. -/
theorem shortest_reads_back (hcanonical : Binary.Canonical (.finite negative m e)) :
    (shortest negative m e).toBinary = .finite negative m e := by
  by_cases hm : m = 0
  · have he : e = Binary.leastExponent := by
      refine hcanonical.2.2.2.resolve_left (not_le.mpr ?_)
      rw [hm]
      exact powerOfTwo_pos 52
    rw [hm, he, shortest_zero]
    rfl
  · obtain ⟨found, k, hshortest, hk, -⟩ := shortest_found hcanonical hm
    rw [hshortest, toBinary_congr (x := found.trimmed) (y := found) rfl (trimmed_size found)]
    exact (behindLeading?_some hm hk).2.2.1

theorem shortest_coefficient_ne_zero (hcanonical : Binary.Canonical (.finite negative m e))
    (hm : m ≠ 0) : (shortest negative m e).coefficient ≠ 0 :=
  coefficient_ne_zero ((ten_zpow_pos _).trans_le (shortest_between hcanonical hm).1).ne'

/-! ## Whole numbers -/

/-- The digits of a whole number are found at the units at the latest. -/
theorem behindLeading?_units (hcanonical : Binary.Canonical (.finite negative m e)) (hm : m ≠ 0)
    (hwhole : (m : ℚ) * 2 ^ e = n) (hk : leadingPlace m e = k) :
    behindLeading? negative m e k ≠ none := by
  intro hnone
  have hlow := (onGrid?_none hnone).1
  have hvalue := grid_value m e (leadingPlace m e - k)
  have hpos :=
    gridQuotient_pos (n := (Binary.quotient m e).1) (quotient_pos m e) (leadingPlace m e - k)
  rw [hk, sub_self] at hlow hvalue hpos
  generalize gridQuotient (Binary.quotient m e).1 (Binary.quotient m e).2 0 = grid at *
  have hfloor : grid.1 / grid.2 = n := by
    have hpos' : (0 : ℚ) < grid.2 := by exact_mod_cast hpos
    rw [zpow_zero, mul_one, hwhole, div_eq_iff hpos'.ne'] at hvalue
    have hmul : grid.1 = n * grid.2 := by exact_mod_cast hvalue
    rw [hmul, Nat.mul_div_cancel _ hpos]
  refine hlow (toBinary_near (x := units (.finite negative m e) 0 _) hcanonical hm ?_)
  have hsize : (units (.finite negative m e) 0 (grid.1 / grid.2)).size = m * 2 ^ e := by
    rw [size, hwhole, hfloor]
    simp [units]
  rw [hsize, sub_self, abs_zero, zero_mul]
  exact mul_pos (by exact_mod_cast Nat.pos_of_ne_zero hm) (two_zpow_pos e)

theorem leadingPlace_nonneg (hm : m ≠ 0) (hone : (1 : ℚ) ≤ m * 2 ^ e) : 0 ≤ leadingPlace m e := by
  have hhigh := (leadingPlace_bounds (e := e) hm).2
  have hone' : (10 : ℚ) ^ (0 : ℤ) ≤ m * 2 ^ e := by rwa [zpow_zero]
  have := (zpow_lt_zpow_iff_right₀ (by norm_num)).mp (hone'.trans_lt hhigh)
  omega

/-- Below `2 ^ 53` half a unit of the last place is smaller than one. -/
theorem half_unit_lt_one (hcanonical : Binary.Canonical (.finite negative m e))
    (hsmall : (m : ℚ) * 2 ^ e < 2 ^ 53) : (2 : ℚ) ^ e / 2 < 1 := by
  rcases hcanonical.2.2.2 with hleading | hleast
  · have hleading' : (2 : ℚ) ^ 52 ≤ m := by
      rw [← cast_powerOfTwo]
      exact_mod_cast hleading
    have : (2 : ℚ) ^ 52 * 2 ^ e ≤ m * 2 ^ e :=
      mul_le_mul_of_nonneg_right hleading' (two_zpow_pos e).le
    linarith
  · rw [hleast, div_lt_one two_pos]
    exact (zpow_le_one_of_nonpos₀ (by norm_num) (by decide)).trans_lt one_lt_two

/-- A whole number smaller than `2 ^ 53` is its shortest decimal. -/
theorem shortest_whole (hcanonical : Binary.Canonical (.finite negative m e))
    (hwhole : (m : ℚ) * 2 ^ e = n) (hn : n < powerOfTwo 53) : (shortest negative m e).size = n := by
  by_cases hm : m = 0
  · rw [← hwhole, hm, shortest_zero, size]
    norm_num
  have hn' : (n : ℚ) < 2 ^ 53 := by
    have : n < 2 ^ 53 := hn
    exact_mod_cast this
  have hone : 1 ≤ n := by
    have hpos : 0 < (m : ℚ) * 2 ^ e :=
      mul_pos (by exact_mod_cast Nat.pos_of_ne_zero hm) (two_zpow_pos e)
    rw [hwhole] at hpos
    exact_mod_cast hpos
  have hplace : 0 ≤ leadingPlace m e := leadingPlace_nonneg hm (by rw [hwhole]; exact_mod_cast hone)
  have he : (2 : ℚ) ^ e / 2 < 1 := half_unit_lt_one hcanonical (hwhole.trans_lt hn')
  -- the units are the last grid to look at, so what is found is a whole number, and less than one
  -- away
  obtain ⟨units, hunits⟩ := Int.eq_ofNat_of_zero_le hplace
  obtain ⟨found, k, hshortest, hk, hbefore⟩ := shortest_found hcanonical hm
  obtain ⟨-, hexponent, hreads, -⟩ := behindLeading?_some hm hk
  have hkunits : k ≤ units := by
    rw [← not_lt]
    intro hlt
    exact behindLeading?_units hcanonical hm hwhole hunits (hbefore units hlt)
  obtain ⟨place, hplace⟩ : ∃ place : ℕ, found.exponent = place := ⟨units - k, by omega⟩
  have hfound : found.size = (found.coefficient * 10 ^ place : ℕ) := by
    rw [size, hplace, zpow_natCast]
    push_cast
    rfl
  have herror := (toBinary_error hreads hm).2
  rw [hfound, hwhole] at herror
  obtain ⟨hbelow, habove⟩ := abs_lt.mp (herror.trans_lt he)
  have hbelow' : n < found.coefficient * 10 ^ place + 1 := by
    have : (n : ℚ) < (found.coefficient * 10 ^ place : ℕ) + 1 := by linarith
    exact_mod_cast this
  have habove' : found.coefficient * 10 ^ place < n + 1 := by
    have : ((found.coefficient * 10 ^ place : ℕ) : ℚ) < n + 1 := by linarith
    exact_mod_cast this
  rw [hshortest, trimmed_size, hfound, show found.coefficient * 10 ^ place = n by omega]

end Dossier.Number.Decimal
