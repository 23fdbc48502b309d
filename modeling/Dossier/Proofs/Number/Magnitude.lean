import Dossier.Number.Decimal
import Mathlib.Algebra.Order.Field.Power
import Mathlib.Algebra.Order.Field.Rat
import Mathlib.Tactic.Linarith
import Mathlib.Tactic.NormNum
import Mathlib.Tactic.Positivity
import Mathlib.Tactic.Ring

/-!
# Exact magnitudes

The magnitude of a finite number is a rational, and so are the quotients that the algorithms work
with. A whole logarithm of a quotient says between which two powers it lies, and no other number
does.
-/

set_option autoImplicit false

namespace Dossier.Number

section Powers

variable {b : ℕ} {j k : ℤ} {n d : ℕ} {q : ℚ}

theorem cast_powerOfTwo (k : ℕ) : (powerOfTwo k : ℚ) = 2 ^ k := by
  rw [powerOfTwo, Nat.pow_eq]
  push_cast
  rfl

theorem cast_powerOfTen (k : ℕ) : (powerOfTen k : ℚ) = 10 ^ k := by
  rw [powerOfTen, Nat.pow_eq]
  push_cast
  rfl

theorem powerOfTwo_pos (k : ℕ) : 0 < powerOfTwo k := Nat.pow_pos (by decide)

theorem powerOfTen_pos (k : ℕ) : 0 < powerOfTen k := Nat.pow_pos (by decide)

theorem two_zpow_pos (k : ℤ) : (0 : ℚ) < 2 ^ k := zpow_pos (by decide) k

theorem ten_zpow_pos (k : ℤ) : (0 : ℚ) < 10 ^ k := zpow_pos (by decide) k

theorem zpow_toNat {x : ℚ} (hk : 0 ≤ k) : x ^ k.toNat = x ^ k := by
  rw [← zpow_natCast, Int.toNat_of_nonneg hk]

theorem zpow_neg_toNat {x : ℚ} (hk : ¬ 0 ≤ k) : x ^ (-k).toNat = (x ^ k)⁻¹ := by
  rw [zpow_toNat (by omega), zpow_neg]

/-- Between two powers that follow each other there is no third. -/
theorem zpow_between_unique {x : ℚ} (hx : 1 < x) (hj : x ^ j ≤ q) (hj' : q < x ^ (j + 1))
    (hk : x ^ k ≤ q) (hk' : q < x ^ (k + 1)) : j = k := by
  have hjk := (zpow_lt_zpow_iff_right₀ hx).mp (hj.trans_lt hk')
  have hkj := (zpow_lt_zpow_iff_right₀ hx).mp (hk.trans_lt hj')
  omega

/-- A quotient lies strictly within one power of the quotient of two powers below its parts. -/
theorem zpow_sub_bounds (hb : 1 < b) (hd : 0 < d) {i : ℤ} (hn : (b : ℚ) ^ i ≤ n)
    (hn' : (n : ℚ) < b ^ (i + 1)) (hj : (b : ℚ) ^ j ≤ d) (hj' : (d : ℚ) < b ^ (j + 1)) :
    (b : ℚ) ^ (i - j - 1) < n / d ∧ (n : ℚ) / d < b ^ (i - j + 1) := by
  have hb0 : (b : ℚ) ≠ 0 := by positivity
  have hd0 : (0 : ℚ) < d := by exact_mod_cast hd
  have hpos : (0 : ℚ) < b ^ (i - j - 1) := by positivity
  constructor
  · rw [lt_div_iff₀ hd0]
    calc (b : ℚ) ^ (i - j - 1) * d < b ^ (i - j - 1) * b ^ (j + 1) := by gcongr
      _ = b ^ i := by rw [← zpow_add₀ hb0]; congr 1; ring
      _ ≤ n := hn
  · rw [div_lt_iff₀ hd0]
    calc (n : ℚ) < b ^ (i + 1) := hn'
      _ = b ^ (i - j + 1) * b ^ j := by rw [← zpow_add₀ hb0]; congr 1; ring
      _ ≤ b ^ (i - j + 1) * d := by gcongr

/-- Whether a quotient lies below a power, decided on natural numbers. -/
theorem lt_zpow_iff (hb : 0 < b) (hd : 0 < d) :
    (if 0 ≤ k then n < d * b ^ k.toNat else n * b ^ (-k).toNat < d) ↔ (n : ℚ) / d < b ^ k := by
  have hd0 : (0 : ℚ) < d := by exact_mod_cast hd
  have hpow : (0 : ℚ) < b ^ k := by positivity
  rw [div_lt_iff₀ hd0]
  split
  case isTrue hk =>
    rw [← zpow_toNat hk, mul_comm ((b : ℚ) ^ _)]
    exact_mod_cast Iff.rfl
  case isFalse hk =>
    have hcast : (n * b ^ (-k).toNat < d) ↔ ((n : ℚ) * b ^ (-k).toNat < d) := by
      exact_mod_cast Iff.rfl
    rw [hcast, zpow_neg_toNat hk, mul_inv_lt_iff₀ hpow, mul_comm]

/-- The step from a logarithm that may be one too large to the logarithm itself. -/
theorem log_step {x : ℚ} (hbelow : x ^ (k - 1) < q) (habove : q < x ^ (k + 1))
    {P : Prop} [Decidable P] (hP : P ↔ q < x ^ k) :
    x ^ (if P then k - 1 else k) ≤ q ∧ q < x ^ ((if P then k - 1 else k) + 1) := by
  by_cases h : P
  · rw [if_pos h, sub_add_cancel]
    exact ⟨hbelow.le, hP.mp h⟩
  · rw [if_neg h]
    exact ⟨not_lt.mp fun hlt => h (hP.mpr hlt), habove⟩

end Powers

/-! ## Whole logarithms -/

section Logarithms

variable {n d : ℕ} {k : ℤ}

theorem log2_bounds (hn : 0 < n) :
    (2 : ℚ) ^ (n.log2 : ℤ) ≤ n ∧ (n : ℚ) < 2 ^ ((n.log2 : ℤ) + 1) := by
  have hlow := Nat.log2_self_le hn.ne'
  have hhigh := Nat.lt_log2_self (n := n)
  constructor
  · rw [zpow_natCast]
    exact_mod_cast hlow
  · have : ((n.log2 : ℤ) + 1) = ((n.log2 + 1 : ℕ) : ℤ) := by push_cast; rfl
    rw [this, zpow_natCast]
    exact_mod_cast hhigh

theorem digitCount_pos (n : ℕ) : 0 < digitCount n := Nat.length_toDigits_pos

theorem digitCount_bounds (hn : 0 < n) :
    (10 : ℚ) ^ ((digitCount n : ℤ) - 1) ≤ n ∧ (n : ℚ) < 10 ^ (digitCount n : ℤ) := by
  have hpos := digitCount_pos n
  have hcast : ((digitCount n : ℤ) - 1) = ((digitCount n - 1 : ℕ) : ℤ) := by omega
  constructor
  · rw [hcast, zpow_natCast]
    have hlow : 10 ^ (digitCount n - 1) ≤ n := by
      by_contra hlt
      rcases Nat.eq_zero_or_pos (digitCount n - 1) with h0 | h1
      · rw [h0] at hlt
        omega
      · have := (Nat.length_toDigits_le_iff (by decide) h1).mpr (not_le.mp hlt)
        rw [← digitCount] at this
        omega
    exact_mod_cast hlow
  · rw [zpow_natCast]
    have hhigh := (Nat.length_toDigits_le_iff (b := 10) (by decide) hpos).mp le_rfl
    exact_mod_cast hhigh

theorem log2Div_bounds (hn : 0 < n) (hd : 0 < d) :
    (2 : ℚ) ^ log2Div n d ≤ n / d ∧ (n : ℚ) / d < 2 ^ (log2Div n d + 1) := by
  obtain ⟨hn1, hn2⟩ := log2_bounds hn
  obtain ⟨hd1, hd2⟩ := log2_bounds hd
  obtain ⟨hbelow, habove⟩ := zpow_sub_bounds (b := 2) (by decide) hd hn1 hn2 hd1 hd2
  exact log_step hbelow habove (lt_zpow_iff (b := 2) (by decide) hd)

theorem log10Div_bounds (hn : 0 < n) (hd : 0 < d) :
    (10 : ℚ) ^ log10Div n d ≤ n / d ∧ (n : ℚ) / d < 10 ^ (log10Div n d + 1) := by
  obtain ⟨hn1, hn2⟩ := digitCount_bounds hn
  obtain ⟨hd1, hd2⟩ := digitCount_bounds hd
  obtain ⟨hbelow, habove⟩ := zpow_sub_bounds (b := 10) (by decide) hd
    hn1 (by rwa [sub_add_cancel]) hd1 (by rwa [sub_add_cancel])
  have hk : (digitCount n : ℤ) - 1 - (digitCount d - 1) = digitCount n - digitCount d := by ring
  rw [hk] at hbelow habove
  exact log_step hbelow habove (lt_zpow_iff (b := 10) (by decide) hd)

theorem log2Div_eq (hn : 0 < n) (hd : 0 < d) (hlow : (2 : ℚ) ^ k ≤ n / d)
    (hhigh : (n : ℚ) / d < 2 ^ (k + 1)) : log2Div n d = k :=
  zpow_between_unique (by norm_num) (log2Div_bounds hn hd).1 (log2Div_bounds hn hd).2 hlow hhigh

end Logarithms

/-! ## Magnitudes -/

section Values

variable {negative : Bool} {m : ℕ} {e : ℤ}

def signed (negative : Bool) (q : ℚ) : ℚ := if negative then -q else q

theorem signed_zero (negative : Bool) : signed negative 0 = 0 := by
  cases negative <;> simp [signed]

theorem abs_signed {q : ℚ} (hq : 0 ≤ q) : |signed negative q| = q := by
  cases negative <;> simp [signed, abs_of_nonneg hq]

theorem signed_inj {p q : ℚ} : signed negative p = signed negative q ↔ p = q := by
  cases negative <;> simp [signed]

theorem quotient_pos (m : ℕ) (e : ℤ) : 0 < (Binary.quotient m e).2 := by
  rw [Binary.quotient]
  split
  · exact Nat.one_pos
  · exact powerOfTwo_pos _

theorem quotient_value (m : ℕ) (e : ℤ) :
    ((Binary.quotient m e).1 : ℚ) / (Binary.quotient m e).2 = m * 2 ^ e := by
  rw [Binary.quotient]
  split
  case isTrue he =>
    push_cast
    rw [cast_powerOfTwo, zpow_toNat he, div_one]
  case isFalse he =>
    dsimp only
    rw [cast_powerOfTwo, zpow_neg_toNat he, div_inv_eq_mul]

theorem toRat?_finite :
    (Binary.finite negative m e).toRat? = some (signed negative (m * 2 ^ e)) := by
  simp only [Binary.toRat?, Rat.mkRat_eq_div]
  rw [← quotient_value]
  rfl

theorem gridQuotient_pos {n d : ℕ} (hd : 0 < d) (e : ℤ) : 0 < (Decimal.gridQuotient n d e).2 := by
  rw [Decimal.gridQuotient]
  split
  · exact Nat.mul_pos hd (powerOfTen_pos _)
  · exact hd

theorem gridQuotient_value (n d : ℕ) (e : ℤ) :
    ((Decimal.gridQuotient n d e).1 : ℚ) / (Decimal.gridQuotient n d e).2 = n / d / 10 ^ e := by
  rw [Decimal.gridQuotient]
  split
  case isTrue he =>
    push_cast
    rw [cast_powerOfTen, zpow_toNat he, div_div]
  case isFalse he =>
    push_cast
    rw [cast_powerOfTen, zpow_neg_toNat he, ← div_eq_mul_inv, div_right_comm]

namespace Decimal

variable {x : Decimal}

def size (x : Decimal) : ℚ := x.coefficient * 10 ^ x.exponent

theorem toRat_eq (x : Decimal) : x.toRat = signed x.negative x.size := by
  rw [toRat, signed, size]
  by_cases he : 0 ≤ x.exponent
  · rw [if_pos he]
    push_cast
    rw [cast_powerOfTen, zpow_toNat he]
  · rw [if_neg he, Rat.mkRat_eq_div]
    push_cast
    rw [cast_powerOfTen, zpow_neg_toNat he, div_inv_eq_mul]

theorem shortest_negative (negative : Bool) (m : ℕ) (e : ℤ) :
    (shortest negative m e).negative = negative := by
  rw [shortest]
  split <;> rfl

/-- The place of the point says between which powers of ten a decimal lies. -/
theorem point_bounds (hx : x.coefficient ≠ 0) :
    (10 : ℚ) ^ (x.point - 1) ≤ x.size ∧ x.size < 10 ^ x.point := by
  obtain ⟨hlow, hhigh⟩ := digitCount_bounds (Nat.pos_of_ne_zero hx)
  have hten := ten_zpow_pos x.exponent
  rw [size, point]
  constructor
  · calc (10 : ℚ) ^ (x.exponent + digitCount x.coefficient - 1)
        = 10 ^ ((digitCount x.coefficient : ℤ) - 1) * 10 ^ x.exponent := by
          rw [← zpow_add₀ (by norm_num)]; congr 1; ring
      _ ≤ x.coefficient * 10 ^ x.exponent := by gcongr
  · calc (x.coefficient : ℚ) * 10 ^ x.exponent
        < 10 ^ (digitCount x.coefficient : ℤ) * 10 ^ x.exponent := by gcongr
      _ = 10 ^ (x.exponent + digitCount x.coefficient) := by
          rw [← zpow_add₀ (by norm_num)]; congr 1; ring

theorem point_eq (hx : x.coefficient ≠ 0) {k : ℤ} (hlow : (10 : ℚ) ^ (k - 1) ≤ x.size)
    (hhigh : x.size < 10 ^ k) : x.point = k := by
  obtain ⟨hpoint, hpoint'⟩ := point_bounds hx
  have := zpow_between_unique (by norm_num) hpoint (by rwa [sub_add_cancel]) hlow
    (by rwa [sub_add_cancel])
  omega

end Decimal

end Values

end Dossier.Number
