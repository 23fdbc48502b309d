import Dossier.Proofs.Number.Nearest

/-!
# Rounding keeps the order

Of two quotients the greater one is not rounded to the lesser number. On one grid this holds because
the nearest whole numbers are in order; where the grids differ, the power of two at which the
coarser one begins lies between. Up to `2 ^ 53` no number is infinite, and the error is at most one
part in `2 ^ 53`.
-/

set_option autoImplicit false

namespace Dossier.Number

variable {n d n' d' m : ℕ} {e : ℤ} {negative : Bool} {p q r s : ℚ}

theorem roundDiv_mono (hd : 0 < d) (hd' : 0 < d') (hle : (n : ℚ) / d ≤ n' / d') :
    roundDiv n d ≤ roundDiv n' d' := by
  by_contra hlt
  have hstep : (roundDiv n' d' : ℚ) + 1 ≤ roundDiv n d := by exact_mod_cast not_le.mp hlt
  have herror := abs_le.mp (roundDiv_error (n := n) hd)
  have herror' := abs_le.mp (roundDiv_error (n := n') hd')
  have hvalue : (n : ℚ) / d = n' / d' := by linarith
  exact hlt (roundDiv_congr hd hd' hvalue).le

theorem significandAt_mono (hd : 0 < d) (hd' : 0 < d') (hle : (n : ℚ) / d ≤ n' / d') (e : ℤ) :
    significandAt n d e ≤ significandAt n' d' e := by
  obtain ⟨a, b, hb, hvalue, hround⟩ := significandAt_eq_roundDiv n d hd e
  obtain ⟨a', b', hb', hvalue', hround'⟩ := significandAt_eq_roundDiv n' d' hd' e
  rw [hround, hround']
  apply roundDiv_mono hb hb'
  rw [hvalue, hvalue']
  have := two_zpow_pos e
  gcongr

theorem gridExponent_mono (hn : 0 < n) (hd : 0 < d) (hn' : 0 < n') (hd' : 0 < d')
    (hle : (n : ℚ) / d ≤ n' / d') : gridExponent n d ≤ gridExponent n' d' := by
  have hlog : (2 : ℚ) ^ log2Div n d < 2 ^ (log2Div n' d' + 1) :=
    ((log2Div_bounds hn hd).1.trans hle).trans_lt (log2Div_bounds hn' hd').2
  have := (zpow_lt_zpow_iff_right₀ (by norm_num)).mp hlog
  rw [gridExponent, gridExponent]
  omega

def gridValue (n d : ℕ) : ℚ := significandAt n d (gridExponent n d) * 2 ^ gridExponent n d

theorem gridValue_le (hn : 0 < n) (hd : 0 < d) : gridValue n d ≤ 2 ^ 53 * 2 ^ gridExponent n d := by
  have hle : (significandAt n d (gridExponent n d) : ℚ) ≤ powerOfTwo 53 := by
    exact_mod_cast significandAt_le hn hd
  rw [cast_powerOfTwo] at hle
  have := two_zpow_pos (gridExponent n d)
  rw [gridValue]
  gcongr

/-- Above the least exponent the leading bit is set. -/
theorem le_gridValue (hn : 0 < n) (hd : 0 < d) (hleast : Binary.leastExponent < gridExponent n d) :
    2 ^ 52 * 2 ^ gridExponent n d ≤ gridValue n d := by
  have htwo := two_zpow_pos (gridExponent n d)
  have hgrid : log2Div n d = 52 + gridExponent n d := by
    rw [gridExponent] at hleast ⊢
    omega
  have hlow : (2 : ℚ) ^ 52 * 2 ^ gridExponent n d ≤ n / d := by
    have := (log2Div_bounds hn hd).1
    rw [hgrid, zpow_add₀ (by norm_num)] at this
    exact_mod_cast this
  have herror := (abs_le.mp (significandAt_error (n := n) hd (gridExponent n d))).2
  have hbit : (2 ^ 52 : ℕ) ≤ significandAt n d (gridExponent n d) := by
    generalize significandAt n d (gridExponent n d) = c at herror
    have hhalf : ((2 : ℚ) ^ 52 - 1 / 2) * 2 ^ gridExponent n d ≤ c * 2 ^ gridExponent n d := by
      linarith
    have hhalf' : (2 : ℚ) ^ 52 - 1 / 2 ≤ c := le_of_mul_le_mul_right hhalf htwo
    have hlt : (2 : ℚ) ^ 52 < c + 1 := by linarith
    have hlt' : 2 ^ 52 < c + 1 := by exact_mod_cast hlt
    omega
  have hbit' : (2 : ℚ) ^ 52 ≤ significandAt n d (gridExponent n d) := by exact_mod_cast hbit
  rw [gridValue]
  gcongr

theorem gridValue_mono (hn : 0 < n) (hd : 0 < d) (hn' : 0 < n') (hd' : 0 < d')
    (hle : (n : ℚ) / d ≤ n' / d') : gridValue n d ≤ gridValue n' d' := by
  rcases (gridExponent_mono hn hd hn' hd' hle).eq_or_lt with hgrid | hgrid
  · have hmono := significandAt_mono hd hd' hle (gridExponent n d)
    have := two_zpow_pos (gridExponent n d)
    rw [gridValue, gridValue, ← hgrid]
    gcongr
  · -- the coarser grid begins at a power of two that the finer one does not pass
    have hleast : Binary.leastExponent < gridExponent n' d' := (le_max_left _ _).trans_lt hgrid
    calc gridValue n d ≤ 2 ^ 53 * 2 ^ gridExponent n d := gridValue_le hn hd
      _ = 2 ^ 52 * 2 ^ (gridExponent n d + 1) := by
        rw [zpow_add_one₀ (by norm_num)]
        ring
      _ ≤ 2 ^ 52 * 2 ^ gridExponent n' d' := by
        gcongr
        · norm_num
        · exact hgrid
      _ ≤ gridValue n' d' := le_gridValue hn' hd' hleast

theorem gridValue_error (hn : 0 < n) (hd : 0 < d) :
    |(n : ℚ) / d - gridValue n d| ≤ ((n : ℚ) / d + 1) / 2 ^ 53 := by
  refine (significandAt_error hd _).trans ?_
  have hpos : (0 : ℚ) ≤ n / d := by positivity
  rw [gridExponent]
  rcases max_choice Binary.leastExponent (log2Div n d - 52) with hgrid | hgrid
  · rw [hgrid]
    have hleast : (2 : ℚ) ^ Binary.leastExponent ≤ 2 ^ (-52 : ℤ) :=
      zpow_le_zpow_right₀ (by norm_num) (by decide)
    calc (2 : ℚ) ^ Binary.leastExponent / 2 ≤ 2 ^ (-52 : ℤ) / 2 := by gcongr
      _ = 1 / 2 ^ 53 := by norm_num
      _ ≤ ((n : ℚ) / d + 1) / 2 ^ 53 := by
        gcongr
        linarith
  · rw [hgrid, zpow_sub₀ (by norm_num)]
    have := (log2Div_bounds hn hd).1
    calc (2 : ℚ) ^ log2Div n d / 2 ^ (52 : ℤ) / 2 = 2 ^ log2Div n d / 2 ^ 53 := by
          rw [div_div]
          norm_num
      _ ≤ ((n : ℚ) / d + 1) / 2 ^ 53 := by
        gcongr
        linarith

theorem carried_toRat? (hm : m ≤ powerOfTwo 53) (he : e < Binary.greatestExponent) :
    (carried negative m e).toRat? = some (signed negative (m * 2 ^ e)) := by
  rw [carried]
  by_cases hs : powerOfTwo 53 ≤ m
  · obtain rfl := le_antisymm hm hs
    simp only [le_refl, if_true]
    rw [if_neg (by omega), toRat?_finite, zpow_add_one₀ (by norm_num)]
    have hhalf : (powerOfTwo 53 : ℚ) = (powerOfTwo 53 / 2 : ℕ) * 2 := by
      have : powerOfTwo 53 = powerOfTwo 53 / 2 * 2 := by decide
      exact_mod_cast this
    rw [hhalf]
    ring_nf
  · simp only [if_neg hs]
    rw [if_neg (by omega), toRat?_finite]

namespace Binary

theorem natAbs_num_div_den (hq : 0 < q) : (q.num.natAbs : ℚ) / q.den = q := by
  have hnum : (q.num.natAbs : ℤ) = q.num := Int.natAbs_of_nonneg (Rat.num_pos.mpr hq).le
  rw [← Int.cast_natCast, hnum, Rat.num_div_den]

theorem ofRat_toRat? (hq : 0 < q) (hmost : q ≤ 2 ^ 53) :
    (ofRat q).toRat? = some (gridValue q.num.natAbs q.den) := by
  have hn : 0 < q.num.natAbs := Int.natAbs_pos.mpr (Rat.num_pos.mpr hq).ne'
  have hvalue := natAbs_num_div_den hq
  have hlog : (2 : ℚ) ^ log2Div q.num.natAbs q.den ≤ 2 ^ (53 : ℤ) := by
    refine (log2Div_bounds hn q.den_pos).1.trans ?_
    rw [hvalue]
    exact_mod_cast hmost
  have hlog' := (zpow_le_zpow_iff_right₀ (by norm_num : (1 : ℚ) < 2)).mp hlog
  have hgrid : gridExponent q.num.natAbs q.den < greatestExponent := by
    rw [gridExponent, leastExponent, greatestExponent]
    omega
  rw [ofRat, decide_eq_false (not_lt.mpr hq.le), ofQuotient_eq hn.ne',
    carried_toRat? (significandAt_le hn q.den_pos) hgrid]
  rfl

theorem ofRat_zero : (ofRat 0).toRat? = some 0 := by
  simp [ofRat, ofQuotient, toRat?_finite, signed]

/-- Up to `2 ^ 53` a rational is rounded to a number at most one part in `2 ^ 53` away. -/
theorem ofRat_error (hq : 0 ≤ q) (hmost : q ≤ 2 ^ 53) :
    ∃ r, (ofRat q).toRat? = some r ∧ |q - r| ≤ (q + 1) / 2 ^ 53 := by
  rcases hq.eq_or_lt with rfl | hpos
  · refine ⟨0, ofRat_zero, ?_⟩
    norm_num
  · refine ⟨_, ofRat_toRat? hpos hmost, ?_⟩
    have hn : 0 < q.num.natAbs := Int.natAbs_pos.mpr (Rat.num_pos.mpr hpos).ne'
    have := gridValue_error hn q.den_pos
    rwa [natAbs_num_div_den hpos] at this

theorem ofRat_mono (hp : 0 ≤ p) (hpq : p ≤ q) (hmost : q ≤ 2 ^ 53) (hr : (ofRat p).toRat? = some r)
    (hs : (ofRat q).toRat? = some s) : r ≤ s := by
  rcases (hp.trans hpq).eq_or_lt with rfl | hq
  · obtain rfl := le_antisymm hpq hp
    rw [hr] at hs
    exact (Option.some.inj hs).le
  have hn' : 0 < q.num.natAbs := Int.natAbs_pos.mpr (Rat.num_pos.mpr hq).ne'
  rw [ofRat_toRat? hq hmost] at hs
  obtain rfl := Option.some.inj hs
  rcases hp.eq_or_lt with rfl | hp
  · rw [ofRat_zero] at hr
    obtain rfl := Option.some.inj hr
    rw [gridValue]
    have := two_zpow_pos (gridExponent q.num.natAbs q.den)
    positivity
  have hn : 0 < p.num.natAbs := Int.natAbs_pos.mpr (Rat.num_pos.mpr hp).ne'
  rw [ofRat_toRat? hp (hpq.trans hmost)] at hr
  obtain rfl := Option.some.inj hr
  apply gridValue_mono hn p.den_pos hn' q.den_pos
  rwa [natAbs_num_div_den hp, natAbs_num_div_den hq]

end Binary

end Dossier.Number
