import Dossier.Proofs.Number.Shortest
import Dossier.Proofs.Number.Written

/-!
# Numbers as a reader sees them

A shown number denotes what its text as data denotes, the shortest decimal that reads back, unless
it is a whole number from `2 ^ 53` on and below `10 ^ 21`: those are written out exactly, and the
exact digits may go on where the shortest ones have ended. An exponent is written outside `10 ^ -6`
to `10 ^ 21` only, and there the text as data has an exponent too. The lower bound is the number
nearest to `10 ^ -6`, which is smaller; its shortest decimal is `10 ^ -6` itself.
-/

set_option autoImplicit false

namespace Dossier.Number

open Text

variable {negative : Bool} {m : ℕ} {e n : ℤ} {x : Binary}

/-! ## Whole numbers -/

theorem toInt?_eq_some_iff :
    (Binary.finite negative m e).toInt? = some n ↔ signed negative (m * 2 ^ e) = n := by
  rw [Binary.toInt?, toRat?_finite]
  dsimp only
  split
  case isTrue hden =>
    rw [Option.some_inj]
    constructor
    · rintro rfl
      exact (Rat.coe_int_num_of_den_eq_one hden).symm
    · intro hvalue
      rw [hvalue, Rat.num_intCast]
  case isFalse hden =>
    refine ⟨nofun, fun hvalue => absurd ?_ hden⟩
    rw [hvalue, Rat.den_intCast]

theorem size_of_whole (hwhole : signed negative (m * 2 ^ e) = n) : (m : ℚ) * 2 ^ e = n.natAbs := by
  have habs := congrArg abs hwhole
  rwa [abs_signed (mul_nonneg (Nat.cast_nonneg _) (two_zpow_pos e).le), ← Int.cast_abs,
    ← Nat.cast_natAbs] at habs

/-- The text of a number: of a whole one below the threshold all digits, else the shortest. -/
theorem showBinary_cases (x : Binary) :
    (∃ n, x.toInt? = some n ∧ n.natAbs < exponentThreshold ∧ showBinary x = intText n) ∨
      ((∀ n, x.toInt? = some n → exponentThreshold ≤ n.natAbs) ∧
        showBinary x = Style.shown.write x) := by
  rw [showBinary]
  cases hwhole : x.toInt? with
  | none => exact .inr ⟨nofun, rfl⟩
  | some n =>
    dsimp only
    split
    case isTrue hlt => exact .inl ⟨n, rfl, hlt, rfl⟩
    case isFalse hge =>
      refine .inr ⟨fun k hk => ?_, rfl⟩
      cases hk
      exact not_lt.mp hge

/-- A number that is not whole has bits behind the point, and so fewer than 53 before it. -/
theorem size_lt_of_not_whole (hcanonical : Binary.Canonical (.finite negative m e))
    (hwhole : ∀ n, (Binary.finite negative m e).toInt? ≠ some n) :
      (m : ℚ) * 2 ^ e < 10 ^ (16 : ℤ) := by
  have he : e < 0 := by
    by_contra hge
    rw [not_lt] at hge
    obtain ⟨k, rfl⟩ := Int.eq_ofNat_of_zero_le hge
    refine hwhole (if negative then -(m * 2 ^ k) else m * 2 ^ k) (toInt?_eq_some_iff.mpr ?_)
    rw [signed, zpow_natCast]
    split <;> push_cast <;> rfl
  have hm := hcanonical.significand_lt
  calc (m : ℚ) * 2 ^ e ≤ m * 1 := by
        refine mul_le_mul_of_nonneg_left ?_ (Nat.cast_nonneg _)
        exact zpow_le_one_of_nonpos₀ (by norm_num) he.le
    _ < 10 ^ (16 : ℤ) := by
        norm_num at hm ⊢
        linarith

/-! ## The range without exponents -/

/-- Shown without an exponent are zero and the numbers from the one nearest to `10 ^ -6` on and
below `10 ^ 21`. -/
def Binary.InPlainRange (x : Binary) : Prop :=
  ∃ v least, x.toRat? = some v ∧ (Decimal.toBinary ⟨false, 1, -6⟩).toRat? = some least ∧
    (v = 0 ∨ least ≤ |v| ∧ |v| < exponentThreshold)

theorem millionth (negative : Bool) :
    Decimal.toBinary ⟨negative, 1, -6⟩ = .finite negative 4722366482869645 (-72) := by
  cases negative <;> decide +kernel

theorem millionth_point (negative : Bool) :
    (Decimal.shortest negative 4722366482869645 (-72)).point = -5 := by
  cases negative <;> decide +kernel

theorem inPlainRange_iff : (Binary.finite negative m e).InPlainRange ↔
    m = 0 ∨ 4722366482869645 * (2 : ℚ) ^ (-72 : ℤ) ≤ m * 2 ^ e ∧
      (m : ℚ) * 2 ^ e < 10 ^ (21 : ℤ) := by
  have hsize : 0 ≤ (m : ℚ) * 2 ^ e := mul_nonneg (Nat.cast_nonneg _) (two_zpow_pos e).le
  have hthreshold : (exponentThreshold : ℚ) = 10 ^ (21 : ℤ) := cast_powerOfTen 21
  have hzero : signed negative (m * 2 ^ e) = 0 ↔ m = 0 := by
    rw [← signed_zero negative, signed_inj, mul_eq_zero, or_iff_left (two_zpow_pos e).ne',
      Nat.cast_eq_zero]
  rw [Binary.InPlainRange, millionth, toRat?_finite, toRat?_finite]
  constructor
  · rintro ⟨v, least, hv, hleast, hrange⟩
    cases hv
    cases hleast
    rw [hzero, abs_signed hsize, hthreshold] at hrange
    exact hrange
  · intro hrange
    refine ⟨_, _, rfl, rfl, ?_⟩
    rw [hzero, abs_signed hsize, hthreshold]
    exact hrange

/-- No number lies between the one nearest to `10 ^ -6` and `10 ^ -6`. -/
theorem eq_millionth (hcanonical : Binary.Canonical (.finite negative m e))
    (hlow : 4722366482869645 * (2 : ℚ) ^ (-72 : ℤ) ≤ m * 2 ^ e)
    (hhigh : (m : ℚ) * 2 ^ e < 10 ^ (-6 : ℤ)) : m = 4722366482869645 ∧ e = -72 := by
  have hm53 := hcanonical.significand_lt
  have htwo := two_zpow_pos e
  have hmost : e ≤ -72 := by
    by_contra hgt
    rcases hcanonical.2.2.2 with hleading | hleast
    · have hm52 : (2 : ℚ) ^ 52 ≤ m := by
        rw [← cast_powerOfTwo]
        exact_mod_cast hleading
      have : (2 : ℚ) ^ 52 * 2 ^ (-71 : ℤ) ≤ m * 2 ^ e := by
        gcongr
        · norm_num
        · omega
      norm_num at this hhigh
      linarith
    · rw [Binary.leastExponent] at hleast
      omega
  have hleast : -72 ≤ e := by
    by_contra hlt
    have : (m : ℚ) * 2 ^ e ≤ 2 ^ 53 * 2 ^ (-73 : ℤ) := by
      gcongr
      · norm_num
      · omega
    norm_num at this hlow
    linarith
  obtain rfl : e = -72 := le_antisymm hmost hleast
  have hm : (4722366482869645 : ℚ) ≤ m := le_of_mul_le_mul_right hlow htwo
  have hm' : (m : ℚ) < 4722366482869646 := by
    norm_num at hhigh
    linarith
  have hm : 4722366482869645 ≤ m := by exact_mod_cast hm
  have hm' : m < 4722366482869646 := by exact_mod_cast hm'
  exact ⟨by omega, rfl⟩

/-! ## The place of the point -/

open Decimal

theorem point_le_of_size_lt {x : Decimal} (hx : x.coefficient ≠ 0) {k : ℤ}
    (hsize : x.size < 10 ^ k) :
    x.point ≤ k := by
  have := (zpow_lt_zpow_iff_right₀ (by norm_num)).mp ((point_bounds hx).1.trans_lt hsize)
  omega

theorem lt_point_of_le_size {x : Decimal} (hx : x.coefficient ≠ 0) {k : ℤ}
    (hsize : 10 ^ k ≤ x.size) :
    k < x.point :=
  (zpow_lt_zpow_iff_right₀ (by norm_num)).mp (hsize.trans_lt (point_bounds hx).2)

/-- A number in the range that is not whole has its point where none of the two styles writes an
exponent for it. -/
theorem point_of_inRange (hcanonical : Binary.Canonical (.finite negative m e)) (hm : m ≠ 0)
    (hlow : 4722366482869645 * (2 : ℚ) ^ (-72 : ℤ) ≤ m * 2 ^ e)
    (hhigh : (m : ℚ) * 2 ^ e < 10 ^ (16 : ℤ)) :
    -5 ≤ (shortest negative m e).point ∧ (shortest negative m e).point ≤ 21 := by
  have hcoefficient := shortest_coefficient_ne_zero hcanonical hm
  obtain ⟨hbetween, hbetween'⟩ := shortest_between hcanonical hm
  obtain ⟨hplace, hplace'⟩ := leadingPlace_bounds (e := e) hm
  have hmost : leadingPlace m e < 16 :=
    (zpow_lt_zpow_iff_right₀ (by norm_num)).mp (hplace.trans_lt hhigh)
  refine ⟨?_, ?_⟩
  · by_cases hmillionth : (m : ℚ) * 2 ^ e < 10 ^ (-6 : ℤ)
    · obtain ⟨rfl, rfl⟩ := eq_millionth hcanonical hlow hmillionth
      rw [millionth_point]
    · have hleast : (-6 : ℤ) < leadingPlace m e + 1 :=
        (zpow_lt_zpow_iff_right₀ (by norm_num)).mp ((not_lt.mp hmillionth).trans_lt hplace')
      have := lt_point_of_le_size hcoefficient hbetween
      omega
  · have : (shortest negative m e).size < 10 ^ (21 : ℤ) :=
      hbetween'.trans_lt (zpow_lt_zpow_right₀ (by norm_num) (by omega))
    exact point_le_of_size_lt hcoefficient this

/-- Outside the range both styles write an exponent. -/
theorem point_of_not_inRange (hcanonical : Binary.Canonical (.finite negative m e))
    (hrange : ¬ (Binary.finite negative m e).InPlainRange) :
    (shortest negative m e).point < -5 ∨ 21 < (shortest negative m e).point := by
  rw [inPlainRange_iff, not_or, not_and_or, not_le, not_lt] at hrange
  obtain ⟨hm, hout⟩ := hrange
  have hcoefficient := shortest_coefficient_ne_zero hcanonical hm
  obtain ⟨hbetween, hbetween'⟩ := shortest_between hcanonical hm
  obtain ⟨hplace, hplace'⟩ := leadingPlace_bounds (e := e) hm
  rcases hout with hbelow | habove
  · -- at most `10 ^ -6`, and that is the shortest decimal of another number
    left
    have hmillionth : (m : ℚ) * 2 ^ e < 10 ^ (-6 : ℤ) := by
      refine hbelow.trans ?_
      norm_num
    have hleading : leadingPlace m e < -6 :=
      (zpow_lt_zpow_iff_right₀ (by norm_num)).mp (hplace.trans_lt hmillionth)
    have hle : (shortest negative m e).size ≤ 10 ^ (-6 : ℤ) :=
      hbetween'.trans (zpow_le_zpow_right₀ (by norm_num) (by omega))
    have hne : (shortest negative m e).size ≠ 10 ^ (-6 : ℤ) := by
      intro heq
      have hsame : (shortest negative m e).toBinary = Decimal.toBinary ⟨negative, 1, -6⟩ := by
        refine toBinary_congr (shortest_negative negative m e) ?_
        rw [heq, size, Nat.cast_one, one_mul]
      rw [shortest_reads_back hcanonical, millionth] at hsame
      cases hsame
      exact lt_irrefl _ hbelow
    have := point_le_of_size_lt hcoefficient (lt_of_le_of_ne hle hne)
    omega
  · right
    have hleading : (21 : ℤ) < leadingPlace m e + 1 :=
      (zpow_lt_zpow_iff_right₀ (by norm_num)).mp (habove.trans_lt hplace')
    have := lt_point_of_le_size hcoefficient hbetween
    omega

/-! ## The two texts -/

/-- A digit is no mark of an exponent. -/
theorem AllDigits.no_mark {s : List Char} (hs : AllDigits s) : 'e' ∉ s := fun hmem => by
  have := hs 'e' hmem
  cases this

def mantissaOf (negative : Bool) (w : Numeral) : List Char :=
  if negative then '-' :: (w.whole ++ w.pointed) else w.whole ++ w.pointed

theorem mantissaOf_no_mark {w : Numeral} (hw : w.Proper) (negative : Bool) :
    'e' ∉ mantissaOf negative w := by
  have hpointed : 'e' ∉ w.pointed := by
    rw [Numeral.pointed]
    split
    · exact List.not_mem_nil
    · simp [hw.places.no_mark]
  cases negative <;> simp [mantissaOf, hw.whole.no_mark, hpointed]

/-- The mark of the exponent stands once: it splits a text in two. -/
theorem splitOn_mark {w : Numeral} (hw : w.Proper) {below : Bool} {digits : List Char}
    (hpower : w.power = some (below, digits)) (negative : Bool) :
    (if negative then '-' :: w.text else w.text) =
        mantissaOf negative w ++ 'e' :: (if below then '-' else '+') :: digits ∧
      (mantissaOf negative w ++ 'e' :: (if below then '-' else '+') :: digits).splitOn 'e' =
        [mantissaOf negative w, (if below then '-' else '+') :: digits] := by
  constructor
  · rw [Numeral.text, Numeral.marked, hpower]
    cases negative <;> simp [mantissaOf]
  · rw [List.splitOn_append_cons_self_of_not_mem (mantissaOf_no_mark hw negative)]
    congr 1
    refine List.splitOnP_eq_singleton fun c hc => ?_
    rw [List.mem_cons] at hc
    rcases hc with rfl | hc
    · cases below <;> rfl
    · rw [beq_eq_false_iff_ne]
      rintro rfl
      exact (hw.power below digits hpower).2.no_mark hc

theorem scientific_written {style : Style} {x : Decimal}
    (hpoint : ¬ (style.least ≤ x.point ∧ x.point ≤ style.most)) :
    style.numeral x = scientificNumeral style x.digits x.point := if_neg hpoint

theorem shown_scientific {x : Decimal} (hpoint : x.point < -5 ∨ 21 < x.point) :
    Style.shown.numeral x = scientificNumeral Style.shown x.digits x.point ∧
      Style.data.numeral x = scientificNumeral Style.data x.digits x.point := by
  constructor
  · refine scientific_written ?_
    change ¬ (-5 ≤ x.point ∧ x.point ≤ 21)
    omega
  · refine scientific_written ?_
    change ¬ (-3 ≤ x.point ∧ x.point ≤ 16)
    omega

theorem padZeros_one (n : ℕ) : padZeros 1 (natText n) = natText n := by
  have hlength : 0 < (natText n).length := Nat.length_toDigits_pos
  rw [padZeros, Nat.sub_eq_zero_of_le hlength, List.replicate_zero, List.nil_append]

/-- The shown form of an exponent has no zeros at its head. -/
theorem scientificNumeral_shown {digits : List Char} {point : ℤ} (hdigits : digits ≠ [])
    (hpoint : point ≠ 1) : (scientificNumeral Style.shown digits point).IsScientific := by
  refine ⟨?_, decide (point - 1 < 0), (point - 1).natAbs, by omega, ?_⟩
  · have : 0 < digits.length := List.length_pos_of_ne_nil hdigits
    rw [scientificNumeral, List.length_take]
    omega
  · rw [scientificNumeral]
    change some (_, padZeros 1 _) = _
    rw [padZeros_one]

/-! ## What is shown -/

section Shown

theorem denoted?_data : denoted? (Style.data.write (.finite negative m e)) =
    some (shortest negative m e).toRat := denoted?_write Style.data negative m e

/-- A number smaller than `2 ^ 53` in its size is exact in its shortest digits when it is whole. -/
theorem toRat_of_whole (hcanonical : Binary.Canonical (.finite negative m e))
    (hwhole : (Binary.finite negative m e).toInt? = some n) (hsmall : n.natAbs < powerOfTwo 53) :
    (shortest negative m e).toRat = n := by
  have hvalue := toInt?_eq_some_iff.mp hwhole
  have hsize := size_of_whole hvalue
  rw [toRat_eq, shortest_negative, shortest_whole hcanonical hsize hsmall, ← hsize, hvalue]

theorem showBinary_same_iff (hcanonical : Binary.Canonical (.finite negative m e)) :
    (∃ q, denoted? (showBinary (.finite negative m e)) = some q ∧
      denoted? (Style.data.write (.finite negative m e)) = some q) ↔
    ∀ n, (Binary.finite negative m e).toInt? = some n → powerOfTwo 53 ≤ n.natAbs →
      n.natAbs < exponentThreshold → (shortest negative m e).toRat = n := by
  rw [denoted?_data]
  rcases showBinary_cases (.finite negative m e) with ⟨n, hwhole, hlt, htext⟩ | ⟨hwhole, htext⟩
  · rw [htext, denoted?_intText]
    constructor
    · rintro ⟨q, hq, hshortest⟩ k hk - -
      rw [hwhole] at hk
      cases hk
      cases hq
      exact Option.some_inj.mp hshortest
    · intro hexact
      refine ⟨n, rfl, congrArg some ?_⟩
      by_cases hsmall : n.natAbs < powerOfTwo 53
      · exact toRat_of_whole hcanonical hwhole hsmall
      · exact hexact n hwhole (not_lt.mp hsmall) hlt
  · rw [htext, denoted?_write]
    refine ⟨fun _ n hn _ hlt => ?_, fun _ => ⟨_, rfl, rfl⟩⟩
    exact absurd (hwhole n hn) (not_le.mpr hlt)

theorem intText_plain (n : ℤ) : IsWritten Numeral.IsPlain (intText n) :=
  ⟨_, wholeNumeral n.natAbs, wholeNumeral_proper _, rfl, intText_text n⟩

/-- What is written out as an integer is in the range without exponents. -/
theorem inPlainRange_of_whole (hwhole : (Binary.finite negative m e).toInt? = some n)
    (hlt : n.natAbs < exponentThreshold) : (Binary.finite negative m e).InPlainRange := by
  have hsize := size_of_whole (toInt?_eq_some_iff.mp hwhole)
  rw [inPlainRange_iff, hsize]
  rcases Nat.eq_zero_or_pos n.natAbs with hzero | hpos
  · left
    rw [hzero, Nat.cast_zero, mul_eq_zero, or_iff_left (two_zpow_pos e).ne'] at hsize
    exact_mod_cast hsize
  · right
    have hone : (1 : ℚ) ≤ n.natAbs := by exact_mod_cast hpos
    constructor
    · refine le_trans ?_ hone
      norm_num
    · have hthreshold : (exponentThreshold : ℚ) = 10 ^ (21 : ℤ) := cast_powerOfTen 21
      rw [← hthreshold]
      exact_mod_cast hlt

theorem showBinary_plain (hcanonical : Binary.Canonical (.finite negative m e))
    (hrange : (Binary.finite negative m e).InPlainRange) :
    IsWritten Numeral.IsPlain (showBinary (.finite negative m e)) := by
  rcases showBinary_cases (.finite negative m e) with ⟨n, -, -, htext⟩ | ⟨hwhole, htext⟩
  · rw [htext]
    exact intText_plain n
  rw [htext]
  refine ⟨negative, _, numeral_proper Style.shown _, ?_, write_text Style.shown negative m e⟩
  -- below the threshold only numbers that are not whole are left
  have hthreshold : (exponentThreshold : ℚ) = 10 ^ (21 : ℤ) := cast_powerOfTen 21
  have hnot (n : ℤ) (hsize : (m : ℚ) * 2 ^ e < 10 ^ (21 : ℤ)) :
      (Binary.finite negative m e).toInt? ≠ some n := by
    intro hn
    rw [size_of_whole (toInt?_eq_some_iff.mp hn), ← hthreshold] at hsize
    exact absurd (hwhole n hn) (not_le.mpr (by exact_mod_cast hsize))
  have hpoint : Style.shown.least ≤ (shortest negative m e).point ∧
      (shortest negative m e).point ≤ Style.shown.most := by
    rw [inPlainRange_iff] at hrange
    rcases hrange with rfl | ⟨hlow, hhigh⟩
    · refine absurd (toInt?_eq_some_iff.mpr ?_) (hnot 0 ?_)
      · rw [Nat.cast_zero, zero_mul, signed_zero, Int.cast_zero]
      · rw [Nat.cast_zero, zero_mul]
        exact ten_zpow_pos 21
    · have hm : m ≠ 0 := by
        rintro rfl
        norm_num at hlow
      exact point_of_inRange hcanonical hm hlow
        (size_lt_of_not_whole hcanonical fun n => hnot n hhigh)
  rw [Style.numeral, if_pos hpoint, Numeral.IsPlain, plainNumeral]
  split
  · rfl
  split <;> rfl

theorem showBinary_scientific (hcanonical : Binary.Canonical (.finite negative m e))
    (hrange : ¬ (Binary.finite negative m e).InPlainRange) :
    IsWritten Numeral.IsScientific (showBinary (.finite negative m e)) ∧
      ∃ mantissa sign digits,
        (Style.data.write (.finite negative m e)).toList.splitOn 'e' = [mantissa, sign :: digits] ∧
        (showBinary (.finite negative m e)).toList =
          mantissa ++ 'e' :: sign :: natText (digitsValue digits) := by
  have hpoint := point_of_not_inRange hcanonical hrange
  obtain ⟨hshown, hdata⟩ := shown_scientific hpoint
  have htext : showBinary (.finite negative m e) = Style.shown.write (.finite negative m e) := by
    rcases showBinary_cases (.finite negative m e) with ⟨n, hwhole, hlt, -⟩ | ⟨-, htext⟩
    · exact absurd (inPlainRange_of_whole hwhole hlt) hrange
    · exact htext
  have hproper := numeral_proper Style.shown (shortest negative m e)
  have hproper' := numeral_proper Style.data (shortest negative m e)
  have hwritten := write_text Style.shown negative m e
  have hwritten' := write_text Style.data negative m e
  rw [htext]
  rw [hshown] at hproper hwritten
  rw [hdata] at hproper' hwritten'
  have hpoint : (shortest negative m e).point ≠ 1 := by omega
  have hscientific := scientificNumeral_shown (digits_ne_nil (shortest negative m e)) hpoint
  refine ⟨⟨negative, _, hproper, hscientific, hwritten⟩, ?_⟩
  obtain ⟨hsplit, -⟩ := splitOn_mark hproper rfl negative
  obtain ⟨hsplit', hparts⟩ := splitOn_mark hproper' rfl negative
  refine ⟨_, _, _, by rw [hwritten', hsplit', hparts], ?_⟩
  rw [hwritten, hsplit, digitsValue_padZeros, digitsValue_natText]
  change _ ++ 'e' :: _ :: padZeros 1 _ = _
  rw [padZeros_one]
  rfl

end Shown

/-- What a number is shown as and its text as data denote the same decimal exactly when its shortest
decimal is exact, if it is a whole number from `2 ^ 53` on and below `10 ^ 21`. It is shown without
an exponent in the range for that, and outside with one, which the mark splits off from the text as
data. -/
theorem showBinary_denotes_iff (hcanonical : Binary.Canonical (.finite negative m e)) :
    ((∃ q, denoted? (showBinary (.finite negative m e)) = some q ∧
        denoted? (Style.data.write (.finite negative m e)) = some q) ↔
      ∀ n, (Binary.finite negative m e).toInt? = some n → powerOfTwo 53 ≤ n.natAbs →
        n.natAbs < exponentThreshold → (shortest negative m e).toRat = n) ∧
    ((Binary.finite negative m e).InPlainRange →
      IsWritten Numeral.IsPlain (showBinary (.finite negative m e))) ∧
    (¬ (Binary.finite negative m e).InPlainRange →
      IsWritten Numeral.IsScientific (showBinary (.finite negative m e)) ∧
      ∃ mantissa sign digits,
        (Style.data.write (.finite negative m e)).toList.splitOn 'e' = [mantissa, sign :: digits] ∧
        (showBinary (.finite negative m e)).toList =
          mantissa ++ 'e' :: sign :: natText (digitsValue digits)) :=
  ⟨showBinary_same_iff hcanonical, showBinary_plain hcanonical, showBinary_scientific hcanonical⟩

/-- On the two sides of `10 ^ 21`: `10 ^ 20` is whole and beyond `2 ^ 53`, and a single digit is
exact for it; `10 ^ 22` is outside the range without exponents. -/
theorem showBinary_denotes_about_threshold :
    (∃ q, denoted? (showBinary (.finite false 6103515625000000 14)) = some q ∧
      denoted? (Style.data.write (.finite false 6103515625000000 14)) = some q) ∧
    IsWritten Numeral.IsPlain (showBinary (.finite false 6103515625000000 14)) ∧
    IsWritten Numeral.IsScientific (showBinary (.finite false 4768371582031250 21)) := by
  have hbelow : Binary.Canonical (.finite false 6103515625000000 14) :=
    ⟨by decide, by decide, by decide, .inl (by decide)⟩
  have habove : Binary.Canonical (.finite false 4768371582031250 21) :=
    ⟨by decide, by decide, by decide, .inl (by decide)⟩
  have hwhole : (Binary.finite false 6103515625000000 14).toInt? = some 100000000000000000000 := by
    decide +kernel
  have houtside : ¬ (Binary.finite false 4768371582031250 21).InPlainRange := by
    rw [inPlainRange_iff]
    norm_num
  obtain ⟨hsame, hplain, -⟩ := showBinary_denotes_iff hbelow
  refine ⟨hsame.mpr fun n hn _ _ => ?_, hplain (inPlainRange_of_whole hwhole (by decide +kernel)),
    ((showBinary_denotes_iff habove).2.2 houtside).1⟩
  rw [hwhole] at hn
  cases hn
  decide +kernel

/-- `2 ^ 60` is shown with nineteen digits, and its shortest decimal has sixteen. -/
theorem showBinary_longer :
    Binary.Canonical (.finite false 4503599627370496 8) ∧
      showBinary (.finite false 4503599627370496 8) = "1152921504606846976" ∧
      Style.data.write (.finite false 4503599627370496 8) = "1.152921504606847e+18" ∧
      ¬ ∃ q, denoted? (showBinary (.finite false 4503599627370496 8)) = some q ∧
        denoted? (Style.data.write (.finite false 4503599627370496 8)) = some q := by
  have hshown :
      denoted? (showBinary (.finite false 4503599627370496 8)) = some 1152921504606846976 := by
    decide +kernel
  have hdata : denoted? (Style.data.write (.finite false 4503599627370496 8)) =
      some 1152921504606847000 := by decide +kernel
  refine ⟨⟨by decide, by decide, by decide, .inl (by decide)⟩, by
    decide +kernel, by decide +kernel, ?_⟩
  rintro ⟨q, hq, hq'⟩
  have hsame := hq.trans hq'.symm
  rw [hshown, hdata, Option.some_inj] at hsame
  norm_num at hsame

end Dossier.Number
