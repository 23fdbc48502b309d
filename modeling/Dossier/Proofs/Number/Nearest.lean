import Dossier.Proofs.Number.Magnitude

/-!
# Rounding to the nearest number

The number for a quotient is at most half a unit of its last place away from it. The other way
round, a quotient closer to a number than one part in `2 ^ 54` is read as that number: so close, it
is on the number's side of the middle also where the numbers below lie twice as dense. What a
decimal is read as depends on its value alone.
-/

set_option autoImplicit false

namespace Dossier.Number

variable {negative : Bool} {n d n' d' c m : ℕ} {e e' k : ℤ}

/-! ## Whole numbers -/

theorem roundDiv_error (hd : 0 < d) : |(n : ℚ) / d - roundDiv n d| ≤ 1 / 2 := by
  obtain ⟨hlow, hhigh⟩ := roundDiv_near n d hd
  have hd0 : (0 : ℚ) < d := by exact_mod_cast hd
  have hlow' : 2 * (n : ℚ) ≤ 2 * (d * roundDiv n d) + d := by exact_mod_cast hlow
  have hhigh' : 2 * ((d : ℚ) * roundDiv n d) ≤ 2 * n + d := by exact_mod_cast hhigh
  have hq : (n : ℚ) = n / d * d := (div_mul_cancel₀ _ hd0.ne').symm
  generalize (n : ℚ) / d = q at hq ⊢
  rw [hq] at hlow' hhigh'
  rw [abs_le]
  constructor
  · have : (roundDiv n d - q - 1 / 2) * d ≤ 0 := by linarith
    have := nonpos_of_mul_nonpos_left this hd0
    linarith
  · have : (q - roundDiv n d - 1 / 2) * d ≤ 0 := by linarith
    have := nonpos_of_mul_nonpos_left this hd0
    linarith

/-- Nothing else is nearest to a quotient that is nearer than half a unit. -/
theorem roundDiv_eq (hd : 0 < d) (hlow : (c : ℚ) - 1 / 2 < n / d)
    (hhigh : (n : ℚ) / d < c + 1 / 2) :
    roundDiv n d = c := by
  have herror := abs_le.mp (roundDiv_error (n := n) hd)
  have hle : (roundDiv n d : ℚ) < c + 1 := by linarith [herror.1]
  have hge : (c : ℚ) < roundDiv n d + 1 := by linarith [herror.2]
  have hle' : roundDiv n d < c + 1 := by exact_mod_cast hle
  have hge' : c < roundDiv n d + 1 := by exact_mod_cast hge
  omega

theorem roundDiv_mul_mul (hk : 0 < c) : roundDiv (n * c) (d * c) = roundDiv n d := by
  have hlt : 2 * (n % d * c) < d * c ↔ 2 * (n % d) < d := by
    rw [← mul_assoc]
    exact Nat.mul_lt_mul_right hk
  have hgt : d * c < 2 * (n % d * c) ↔ d < 2 * (n % d) := by
    rw [← mul_assoc]
    exact Nat.mul_lt_mul_right hk
  simp only [roundDiv, Nat.mul_div_mul_right _ _ hk, Nat.mul_mod_mul_right, hlt, hgt]

theorem roundDiv_congr (hd : 0 < d) (hd' : 0 < d') (hvalue : (n : ℚ) / d = n' / d') :
    roundDiv n d = roundDiv n' d' := by
  have hd0 : (d : ℚ) ≠ 0 := by exact_mod_cast hd.ne'
  have hd0' : (d' : ℚ) ≠ 0 := by exact_mod_cast hd'.ne'
  have hcross : n * d' = n' * d := by
    rw [div_eq_div_iff hd0 hd0'] at hvalue
    exact_mod_cast hvalue
  rw [← roundDiv_mul_mul hd', hcross, Nat.mul_comm d d', roundDiv_mul_mul hd]

/-! ## Significands -/

def significandAt (n d : ℕ) (e : ℤ) : ℕ :=
  if 0 ≤ e then roundDiv n (d * powerOfTwo e.toNat) else roundDiv (n * powerOfTwo (-e).toNat) d

def gridExponent (n d : ℕ) : ℤ := max Binary.leastExponent (log2Div n d - 52)

def carried (negative : Bool) (m : ℕ) (e : ℤ) : Binary :=
  let (m, e) := if powerOfTwo 53 ≤ m then (m / 2, e + 1) else (m, e)
  if Binary.greatestExponent < e then .infinite negative else .finite negative m e

theorem ofQuotient_eq (hn : n ≠ 0) : Binary.ofQuotient negative n d =
    carried negative (significandAt n d (gridExponent n d)) (gridExponent n d) := by
  rw [Binary.ofQuotient, if_neg hn]
  rfl

theorem significandAt_eq_roundDiv (n d : ℕ) (hd : 0 < d) (e : ℤ) : ∃ a b : ℕ, 0 < b ∧
    (a : ℚ) / b = n / d / 2 ^ e ∧ significandAt n d e = roundDiv a b := by
  rw [significandAt]
  split
  case isTrue he =>
    refine ⟨n, d * powerOfTwo e.toNat, Nat.mul_pos hd (powerOfTwo_pos _), ?_, rfl⟩
    push_cast
    rw [cast_powerOfTwo, zpow_toNat he, div_div]
  case isFalse he =>
    refine ⟨n * powerOfTwo (-e).toNat, d, hd, ?_, rfl⟩
    push_cast
    rw [cast_powerOfTwo, zpow_neg_toNat he, ← div_eq_mul_inv, div_right_comm]

theorem significandAt_error (hd : 0 < d) (e : ℤ) :
    |(n : ℚ) / d - significandAt n d e * 2 ^ e| ≤ 2 ^ e / 2 := by
  obtain ⟨a, b, hb, hvalue, hround⟩ := significandAt_eq_roundDiv n d hd e
  have htwo := two_zpow_pos e
  have herror := roundDiv_error (n := a) hb
  have hsplit : (n : ℚ) / d - significandAt n d e * 2 ^ e =
      ((a : ℚ) / b - roundDiv a b) * 2 ^ e := by
    rw [hvalue, hround, sub_mul, div_mul_cancel₀ _ htwo.ne']
  rw [hsplit, abs_mul, abs_of_pos htwo]
  calc |(a : ℚ) / b - roundDiv a b| * 2 ^ e ≤ 1 / 2 * 2 ^ e := by gcongr
    _ = 2 ^ e / 2 := by ring

theorem significandAt_eq (hd : 0 < d) (hlow : ((c : ℚ) - 1 / 2) * 2 ^ e < n / d)
    (hhigh : (n : ℚ) / d < (c + 1 / 2) * 2 ^ e) : significandAt n d e = c := by
  obtain ⟨a, b, hb, hvalue, hround⟩ := significandAt_eq_roundDiv n d hd e
  have htwo := two_zpow_pos e
  rw [hround]
  refine roundDiv_eq hb ?_ ?_
  · rwa [hvalue, lt_div_iff₀ htwo]
  · rwa [hvalue, div_lt_iff₀ htwo]

theorem significandAt_congr (hd : 0 < d) (hd' : 0 < d') (hvalue : (n : ℚ) / d = n' / d') (e : ℤ) :
    significandAt n d e = significandAt n' d' e := by
  obtain ⟨a, b, hb, hab, hround⟩ := significandAt_eq_roundDiv n d hd e
  obtain ⟨a', b', hb', hab', hround'⟩ := significandAt_eq_roundDiv n' d' hd' e
  rw [hround, hround']
  exact roundDiv_congr hb hb' (by rw [hab, hab', hvalue])

/-- On the grid of its exponent a quotient has at most 53 bits before the point. -/
theorem lt_gridExponent (hn : 0 < n) (hd : 0 < d) :
    (n : ℚ) / d < 2 ^ 53 * 2 ^ gridExponent n d := by
  calc (n : ℚ) / d < 2 ^ (log2Div n d + 1) := (log2Div_bounds hn hd).2
    _ ≤ 2 ^ (53 + gridExponent n d) := by
      refine zpow_le_zpow_right₀ (by norm_num) ?_
      have : log2Div n d - 52 ≤ gridExponent n d := le_max_right _ _
      omega
    _ = 2 ^ 53 * 2 ^ gridExponent n d := by
      rw [zpow_add₀ (by norm_num)]
      norm_cast

theorem significandAt_le (hn : 0 < n) (hd : 0 < d) :
    significandAt n d (gridExponent n d) ≤ powerOfTwo 53 := by
  have hlt := lt_gridExponent hn hd
  have herror := (abs_le.mp (significandAt_error (n := n) hd (gridExponent n d))).1
  have htwo := two_zpow_pos (gridExponent n d)
  generalize significandAt n d (gridExponent n d) = m at herror ⊢
  have hm : (m : ℚ) * 2 ^ gridExponent n d < (2 ^ 53 + 1) * 2 ^ gridExponent n d := by linarith
  have hm' : (m : ℚ) < 2 ^ 53 + 1 := lt_of_mul_lt_mul_right hm htwo.le
  have : m < 2 ^ 53 + 1 := by exact_mod_cast hm'
  exact Nat.lt_succ_iff.mp this

theorem gridExponent_congr (hn : 0 < n) (hd : 0 < d) (hn' : 0 < n') (hd' : 0 < d')
    (hvalue : (n : ℚ) / d = n' / d') : gridExponent n d = gridExponent n' d' := by
  obtain ⟨hlow, hhigh⟩ := log2Div_bounds hn' hd'
  rw [gridExponent, gridExponent, log2Div_eq hn hd (by rwa [hvalue]) (by rwa [hvalue])]

/-! ## Canonical numbers -/

namespace Binary.Canonical

theorem significand_lt (hcanonical : Binary.Canonical (.finite negative m e)) :
    (m : ℚ) < 2 ^ 53 := by
  have : m < 2 ^ 53 := hcanonical.1
  exact_mod_cast this

theorem size_lt (hcanonical : Binary.Canonical (.finite negative m e)) :
    (m : ℚ) * 2 ^ e < 2 ^ (1024 : ℤ) := by
  calc (m : ℚ) * 2 ^ e < 2 ^ 53 * 2 ^ e := by
        have := hcanonical.significand_lt
        have := two_zpow_pos e
        gcongr
    _ ≤ 2 ^ 53 * 2 ^ (971 : ℤ) := by
        gcongr
        · norm_num
        · exact hcanonical.2.2.1
    _ = 2 ^ (1024 : ℤ) := by
        rw [← zpow_natCast, ← zpow_add₀ (by norm_num)]
        rfl

theorem le_size (hcanonical : Binary.Canonical (.finite negative m e)) (hm : m ≠ 0) :
    (2 : ℚ) ^ (-1074 : ℤ) ≤ m * 2 ^ e := by
  have hm1 : (1 : ℚ) ≤ m := by exact_mod_cast Nat.one_le_iff_ne_zero.mpr hm
  calc (2 : ℚ) ^ (-1074 : ℤ) ≤ 2 ^ e := zpow_le_zpow_right₀ (by norm_num) hcanonical.2.1
    _ ≤ m * 2 ^ e := le_mul_of_one_le_left (two_zpow_pos e).le hm1

end Binary.Canonical

/-! ## Quotients -/

namespace Binary

theorem ofQuotient_congr (hd : 0 < d) (hd' : 0 < d') (hvalue : (n : ℚ) / d = n' / d') :
    ofQuotient negative n d = ofQuotient negative n' d' := by
  have hd0 : (d : ℚ) ≠ 0 := by exact_mod_cast hd.ne'
  have hd0' : (d' : ℚ) ≠ 0 := by exact_mod_cast hd'.ne'
  by_cases hn : n = 0
  · have hn' : n' = 0 := by
      rw [hn, Nat.cast_zero, zero_div, eq_comm, div_eq_zero_iff] at hvalue
      exact_mod_cast hvalue.resolve_right hd0'
    rw [ofQuotient, ofQuotient, if_pos hn, if_pos hn']
  · have hn' : n' ≠ 0 := by
      rintro rfl
      rw [Nat.cast_zero, zero_div, div_eq_zero_iff] at hvalue
      exact hn (by exact_mod_cast hvalue.resolve_right hd0)
    have hgrid := gridExponent_congr (Nat.pos_of_ne_zero hn) hd (Nat.pos_of_ne_zero hn') hd' hvalue
    rw [ofQuotient_eq hn, ofQuotient_eq hn', hgrid, significandAt_congr hd hd' hvalue]

/-- A finite number is at most half a unit of its last place away from what it was rounded from. -/
theorem ofQuotient_error {sign : Bool} (hd : 0 < d)
    (hround : ofQuotient negative n d = .finite sign m e) :
    sign = negative ∧ |(n : ℚ) / d - m * 2 ^ e| ≤ 2 ^ e / 2 := by
  have htwo := two_zpow_pos e
  by_cases hn : n = 0
  · rw [ofQuotient, if_pos hn] at hround
    cases hround
    rw [hn]
    refine ⟨rfl, ?_⟩
    simp only [Nat.cast_zero, zero_div, zero_mul, sub_zero, abs_zero]
    positivity
  have herror := significandAt_error (n := n) hd (gridExponent n d)
  have hle := significandAt_le (Nat.pos_of_ne_zero hn) hd
  rw [ofQuotient_eq hn] at hround
  generalize significandAt n d (gridExponent n d) = s at hround herror hle
  generalize gridExponent n d = g at hround herror
  simp only [carried] at hround
  by_cases hs : powerOfTwo 53 ≤ s
  · -- rounded up to `2 ^ 53`: the same value at the next exponent
    simp only [if_pos hs] at hround
    split at hround
    · cases hround
    cases hround
    refine ⟨rfl, ?_⟩
    have hvalue : ((s / 2 : ℕ) : ℚ) * 2 ^ (g + 1) = s * 2 ^ g := by
      rw [le_antisymm hle hs, zpow_add_one₀ (by norm_num)]
      have : powerOfTwo 53 / 2 * 2 = powerOfTwo 53 := by decide
      rw [mul_comm (2 ^ g), ← mul_assoc]
      congr 1
      exact_mod_cast this
    rw [hvalue]
    refine herror.trans ?_
    rw [zpow_add_one₀ (by norm_num)]
    linarith [two_zpow_pos g]
  · simp only [if_neg hs] at hround
    split at hround
    · cases hround
    cases hround
    exact ⟨rfl, herror⟩

/-- On the grid of its own exponent a number is found from all that is nearer to it than half a
unit. -/
theorem ofQuotient_onGrid (hcanonical : Canonical (.finite negative m e)) (hn : 0 < n) (hd : 0 < d)
    (hgrid : gridExponent n d = e) (hlow : ((m : ℚ) - 1 / 2) * 2 ^ e < n / d)
    (hhigh : (n : ℚ) / d < (m + 1 / 2) * 2 ^ e) :
      ofQuotient negative n d = .finite negative m e := by
  obtain ⟨hm, -, he, -⟩ := hcanonical
  rw [ofQuotient_eq hn.ne', hgrid, significandAt_eq hd hlow hhigh, carried]
  simp only [if_neg (not_le.mpr hm), if_neg (not_lt.mpr he)]

/-- A quotient in the binade of an exponent is rounded on the grid of that exponent. -/
theorem gridExponent_of_binade (hn : 0 < n) (hd : 0 < d) (hleast : leastExponent ≤ e)
    (hlow : (2 : ℚ) ^ 52 * 2 ^ e ≤ n / d) (hhigh : (n : ℚ) / d < 2 ^ 53 * 2 ^ e) :
      gridExponent n d = e := by
  have hlog : log2Div n d = 52 + e := by
    refine log2Div_eq hn hd ?_ ?_
    · rw [zpow_add₀ (by norm_num)]
      exact_mod_cast hlow
    · rw [add_right_comm, zpow_add₀ (by norm_num)]
      exact_mod_cast hhigh
  rw [gridExponent, hlog, add_sub_cancel_left, max_eq_right hleast]

/-- What fits into the least exponent is rounded on its grid. -/
theorem gridExponent_of_least (hn : 0 < n) (hd : 0 < d)
    (hhigh : (n : ℚ) / d < 2 ^ 53 * 2 ^ leastExponent) : gridExponent n d = leastExponent := by
  have hlog : log2Div n d < 53 + leastExponent := by
    refine (zpow_lt_zpow_iff_right₀ (a := (2 : ℚ)) (by norm_num)).mp ?_
    rw [zpow_add₀ (by norm_num)]
    exact (log2Div_bounds hn hd).1.trans_lt (by exact_mod_cast hhigh)
  rw [gridExponent, max_eq_left]
  omega

/-- From within half a unit below a power of two, in the binade that ends there, a quotient is
rounded up to that power. -/
theorem ofQuotient_up (hn : 0 < n) (hd : 0 < d) (hleast : leastExponent ≤ e)
    (hgreatest : e + 1 ≤ greatestExponent) (hlow : ((2 : ℚ) ^ 53 - 1 / 2) * 2 ^ e < n / d)
    (hhigh : (n : ℚ) / d < 2 ^ 53 * 2 ^ e) :
    ofQuotient negative n d = .finite negative (powerOfTwo 52) (e + 1) := by
  have htwo := two_zpow_pos e
  have hgrid : gridExponent n d = e := by
    refine gridExponent_of_binade hn hd hleast (le_of_lt (lt_of_le_of_lt ?_ hlow)) hhigh
    gcongr
    norm_num
  have hround : significandAt n d e = powerOfTwo 53 := by
    refine significandAt_eq hd ?_ ?_
    · rw [cast_powerOfTwo]
      exact hlow
    · rw [cast_powerOfTwo, add_mul]
      linarith
  rw [ofQuotient_eq hn.ne', hgrid, hround, carried]
  simp only [if_pos (le_refl (powerOfTwo 53)), if_neg (not_lt.mpr hgreatest)]
  rfl

/-- A quotient closer to a number than one part in `2 ^ 54` is rounded to it. -/
theorem ofQuotient_near (hcanonical : Canonical (.finite negative m e)) (hn : 0 < n) (hd : 0 < d)
    (hnear : |(n : ℚ) / d - m * 2 ^ e| * 2 ^ 54 < m * 2 ^ e) :
    ofQuotient negative n d = .finite negative m e := by
  have htwo := two_zpow_pos e
  have hm53 : (m : ℚ) ≤ 2 ^ 53 - 1 := by
    have : m + 1 ≤ 2 ^ 53 := hcanonical.1
    have : (m : ℚ) + 1 ≤ 2 ^ 53 := by exact_mod_cast this
    linarith
  have hwide : (m : ℚ) * 2 ^ e ≤ (2 ^ 53 - 1) * 2 ^ e := by gcongr
  have hnear54 : |(n : ℚ) / d - m * 2 ^ e| < m * 2 ^ e / 2 ^ 54 := by
    rwa [lt_div_iff₀ (by positivity)]
  obtain ⟨hbelow, habove⟩ := abs_lt.mp hnear54
  have hlow : ((m : ℚ) - 1 / 2) * 2 ^ e < n / d := by
    rw [sub_mul]
    linarith
  have hhigh : (n : ℚ) / d < (m + 1 / 2) * 2 ^ e := by
    rw [add_mul]
    linarith
  have hfit : (n : ℚ) / d < 2 ^ 53 * 2 ^ e := by linarith
  obtain ⟨-, hleast, hgreatest, hleading⟩ := id hcanonical
  by_cases hbinade : (2 : ℚ) ^ 52 * 2 ^ e ≤ n / d
  · exact ofQuotient_onGrid hcanonical hn hd
      (gridExponent_of_binade hn hd hleast hbinade hfit) hlow hhigh
  by_cases he : e = leastExponent
  · subst he
    exact ofQuotient_onGrid hcanonical hn hd (gridExponent_of_least hn hd hfit) hlow hhigh
  -- in the binade below, where the grid is twice as fine, only a power of two is so near
  rw [not_le] at hbinade
  have hm52 : m = powerOfTwo 52 := by
    refine le_antisymm ?_ (hleading.resolve_right he)
    have : (m : ℚ) - 1 / 2 < 2 ^ 52 := lt_of_mul_lt_mul_right (hlow.trans hbinade) htwo.le
    have : (m : ℚ) < 2 ^ 52 + 1 := by linarith
    have : m < 2 ^ 52 + 1 := by exact_mod_cast this
    exact Nat.lt_succ_iff.mp this
  obtain ⟨below, rfl⟩ : ∃ below, e = below + 1 := ⟨e - 1, by ring⟩
  rw [hm52]
  rw [hm52, cast_powerOfTwo, zpow_add_one₀ (by norm_num)] at hbelow
  rw [zpow_add_one₀ (by norm_num)] at hbinade
  refine ofQuotient_up hn hd (by omega) hgreatest ?_ ?_
  · linarith
  · linarith

end Binary

/-! ## Decimals -/

namespace Decimal

variable {x y : Decimal}

theorem coefficient_ne_zero (hx : x.size ≠ 0) : x.coefficient ≠ 0 := by
  rintro hzero
  rw [size, hzero, Nat.cast_zero, zero_mul] at hx
  exact hx rfl

/-- A decimal as a quotient of natural numbers. -/
theorem toBinary_eq (hx : x.coefficient ≠ 0) (hhigh : x.point ≤ 400) (hlow : -400 ≤ x.point) :
    ∃ n d : ℕ, 0 < n ∧ 0 < d ∧ (n : ℚ) / d = x.size ∧
      x.toBinary = Binary.ofQuotient x.negative n d := by
  have hpos := Nat.pos_of_ne_zero hx
  have hpoint : x.exponent + digitCount x.coefficient = x.point := rfl
  simp only [toBinary, hpoint, if_neg hx, if_neg (not_lt.mpr hhigh), if_neg (not_lt.mpr hlow)]
  split
  case isTrue he =>
    refine ⟨_, 1, Nat.mul_pos hpos (powerOfTen_pos _), Nat.one_pos, ?_, rfl⟩
    push_cast
    rw [div_one, cast_powerOfTen, zpow_toNat he, size]
  case isFalse he =>
    refine ⟨_, _, hpos, powerOfTen_pos _, ?_, rfl⟩
    rw [cast_powerOfTen, zpow_neg_toNat he, div_inv_eq_mul, size]

/-- What a decimal is read as depends on its value alone. -/
theorem toBinary_congr (hsign : x.negative = y.negative) (hsize : x.size = y.size) :
    x.toBinary = y.toBinary := by
  by_cases hzero : x.size = 0
  · have hx : x.coefficient = 0 := by
      rw [size, mul_eq_zero] at hzero
      exact_mod_cast hzero.resolve_right (ten_zpow_pos _).ne'
    have hy : y.coefficient = 0 := by
      rw [hsize, size, mul_eq_zero] at hzero
      exact_mod_cast hzero.resolve_right (ten_zpow_pos _).ne'
    simp only [toBinary, if_pos hx, if_pos hy, hsign]
  have hx := coefficient_ne_zero hzero
  have hy := coefficient_ne_zero (hsize ▸ hzero)
  obtain ⟨hlow, hhigh⟩ := point_bounds hy
  have hpoint : x.point = y.point := point_eq hx (by rwa [hsize]) (by rwa [hsize])
  by_cases hmost : 400 < y.point
  · have hmost' : 400 < x.point := by rwa [hpoint]
    rw [point] at hmost hmost'
    simp only [toBinary, if_neg hx, if_neg hy, if_pos hmost, if_pos hmost', hsign]
  by_cases hleast : y.point < -400
  · have hleast' : x.point < -400 := by rwa [hpoint]
    have hmost' : ¬ 400 < x.point := by rwa [hpoint]
    rw [point] at hmost hmost' hleast hleast'
    simp only [toBinary, if_neg hx, if_neg hy, if_neg hmost, if_neg hmost', if_pos hleast,
      if_pos hleast', hsign]
  rw [not_lt] at hmost hleast
  obtain ⟨n, d, -, hd, hvalue, hbinary⟩ := toBinary_eq hx (by rwa [hpoint]) (by rwa [hpoint])
  obtain ⟨n', d', -, hd', hvalue', hbinary'⟩ := toBinary_eq hy hmost hleast
  rw [hbinary, hbinary', hsign]
  exact Binary.ofQuotient_congr hd hd' (by rw [hvalue, hvalue', hsize])

theorem two_pow_lt_ten_pow {k : ℕ} (hk : k ≠ 0) : (2 : ℚ) ^ (13 * k) < 10 ^ (4 * k) := by
  rw [pow_mul, pow_mul]
  gcongr
  norm_num

/-- A decimal of the size of finite numbers has an exponent that is read. -/
theorem point_range (hx : x.coefficient ≠ 0) (hlow : (2 : ℚ) ^ (-1079 : ℤ) ≤ x.size)
    (hhigh : x.size ≤ 2 ^ (1079 : ℤ)) : -400 ≤ x.point ∧ x.point ≤ 400 := by
  obtain ⟨hpoint, hpoint'⟩ := point_bounds hx
  have hten : (2 : ℚ) ^ (1079 : ℤ) < 10 ^ (332 : ℤ) :=
    two_pow_lt_ten_pow (k := 83) (by decide)
  constructor
  · have : (10 : ℚ) ^ (-332 : ℤ) < 10 ^ x.point := by
      refine lt_trans ?_ (hlow.trans_lt hpoint')
      rw [zpow_neg, zpow_neg]
      exact inv_strictAnti₀ (two_zpow_pos _) hten
    have := (zpow_lt_zpow_iff_right₀ (by norm_num)).mp this
    omega
  · have : (10 : ℚ) ^ (x.point - 1) < 10 ^ (332 : ℤ) := (hpoint.trans hhigh).trans_lt hten
    have := (zpow_lt_zpow_iff_right₀ (by norm_num)).mp this
    omega

/-- A decimal closer to a number than one part in `2 ^ 54` is read as it. -/
theorem toBinary_near (hcanonical : Binary.Canonical (.finite x.negative m e)) (hm : m ≠ 0)
    (hnear : |x.size - m * 2 ^ e| * 2 ^ 54 < m * 2 ^ e) :
    x.toBinary = .finite x.negative m e := by
  have hpos : 0 < (m : ℚ) * 2 ^ e :=
    mul_pos (by exact_mod_cast Nat.pos_of_ne_zero hm) (two_zpow_pos e)
  have hnear' : |x.size - m * 2 ^ e| < m * 2 ^ e / 2 ^ 54 := by rwa [lt_div_iff₀ (by positivity)]
  obtain ⟨hbelow, habove⟩ := abs_lt.mp hnear'
  have hhalf : (m : ℚ) * 2 ^ e / 2 ≤ x.size := by linarith
  have hdouble : x.size ≤ m * 2 ^ e * 2 := by linarith
  have hx : x.coefficient ≠ 0 := coefficient_ne_zero (by linarith)
  have hrange : -400 ≤ x.point ∧ x.point ≤ 400 := by
    refine point_range hx (le_trans ?_ hhalf) (hdouble.trans ?_)
    · rw [le_div_iff₀ two_pos, ← zpow_add_one₀ (by norm_num)]
      exact (zpow_le_zpow_right₀ (by norm_num) (by decide)).trans (hcanonical.le_size hm)
    · calc (m : ℚ) * 2 ^ e * 2 ≤ 2 ^ (1024 : ℤ) * 2 :=
            mul_le_mul_of_nonneg_right hcanonical.size_lt.le zero_le_two
        _ = 2 ^ (1025 : ℤ) := (zpow_add_one₀ (by norm_num) _).symm
        _ ≤ 2 ^ (1079 : ℤ) := zpow_le_zpow_right₀ (by norm_num) (by decide)
  obtain ⟨n, d, hn, hd, hvalue, hbinary⟩ := toBinary_eq hx hrange.2 hrange.1
  rw [hbinary]
  refine Binary.ofQuotient_near hcanonical hn hd ?_
  rwa [hvalue]

/-- The number that a decimal is read as is at most half a unit of its last place away. -/
theorem toBinary_error {sign : Bool} (hbinary : x.toBinary = .finite sign m e) (hm : m ≠ 0) :
    sign = x.negative ∧ |x.size - m * 2 ^ e| ≤ 2 ^ e / 2 := by
  have hx : x.coefficient ≠ 0 := by
    intro hzero
    simp only [toBinary, if_pos hzero] at hbinary
    cases hbinary
    exact hm rfl
  have hmost : x.point ≤ 400 := by
    rw [← not_lt]
    intro hmost
    rw [point] at hmost
    simp only [toBinary, if_neg hx, if_pos hmost] at hbinary
    cases hbinary
  have hleast : -400 ≤ x.point := by
    rw [← not_lt]
    intro hleast
    rw [point] at hleast hmost
    simp only [toBinary, if_neg hx, if_neg (not_lt.mpr hmost), if_pos hleast] at hbinary
    cases hbinary
    exact hm rfl
  obtain ⟨n, d, hn, hd, hvalue, hquotient⟩ := toBinary_eq hx hmost hleast
  rw [hquotient] at hbinary
  have := Binary.ofQuotient_error hd hbinary
  rwa [hvalue] at this

end Decimal

end Dossier.Number
