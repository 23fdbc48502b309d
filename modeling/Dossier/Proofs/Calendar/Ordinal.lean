import Dossier.Calendar.Shown
import Mathlib.Tactic.Common

/-!
# Dates and their ordinals

Counting whole cycles of years and then months takes a day apart without a rest, so a date found
from an ordinal has that ordinal. The reading of a clock is a date and a time of day in one way
alone, and its minute is that of the instant.
-/

set_option autoImplicit false

namespace Dossier.Calendar

def yearLength (leap : Bool) : Nat := if leap then 366 else 365

theorem monthLengths_sum (leap : Bool) :
    (monthLengths leap).foldr (· + ·) 0 = yearLength leap := by
  cases leap <;> rfl

namespace Date

/-- A day counted in years falls into the year. Only the last year of a cycle of 4 has a day more,
unless it ends a century that is no multiple of 400. -/
theorem splitYear_day (day : Nat) :
    (splitYear day).2 < yearLength (isLeap (splitYear day).1) := by
  have hmost : (splitYear day).2 ≤ 365 := by
    simp only [splitYear]
    omega
  have hleap : (splitYear day).2 = 365 → isLeap (splitYear day).1 = true := by
    simp only [splitYear, isLeap, Bool.and_eq_true, Bool.or_eq_true, beq_iff_eq, bne_iff_ne]
    omega
  unfold yearLength
  split
  · omega
  · next hcommon =>
    have hne : (splitYear day).2 ≠ 365 := fun heq => hcommon (hleap heq)
    omega

/-- Every cycle of years has its days: 400 years one day more than four centuries, a century one
less than 25 times four years. -/
theorem daysBeforeYear_cycles (centuries4 : Nat) {centuries years4 years : Nat}
    (hcenturies : centuries ≤ 3) (hyears4 : years4 ≤ 24) (hyears : years ≤ 3) :
    daysBeforeYear (centuries4 * 400 + centuries * 100 + years4 * 4 + years + 1) =
      centuries4 * 146097 + centuries * 36524 + years4 * 1461 + years * 365 := by
  have hfour : (centuries4 * 400 + centuries * 100 + years4 * 4 + years) / 4 =
      centuries4 * 100 + centuries * 25 + years4 := by omega
  have hhundred : (centuries4 * 400 + centuries * 100 + years4 * 4 + years) / 100 =
      centuries4 * 4 + centuries := by omega
  have hall : (centuries4 * 400 + centuries * 100 + years4 * 4 + years) / 400 = centuries4 := by
    omega
  rw [daysBeforeYear]
  simp only [Nat.add_sub_cancel, hfour, hhundred, hall]
  omega

/-- The years before a year and the day in it make up the day. -/
theorem splitYear_ordinal (day : Nat) :
    daysBeforeYear (splitYear day).1 + (splitYear day).2 = day := by
  simp only [splitYear]
  rw [daysBeforeYear_cycles _ (by omega) (by omega) (by omega)]
  omega

/-- A day of a year falls into one of its months, behind the days of the months before. -/
theorem splitMonth_spec {lengths : List Nat} (month : Nat) {day : Nat}
    (hday : day < lengths.foldr (· + ·) 0) :
    ∃ k, k < lengths.length ∧ (splitMonth lengths month day).1 = month + k ∧
      (lengths.take k).foldr (· + ·) 0 + (splitMonth lengths month day).2 = day + 1 ∧
      1 ≤ (splitMonth lengths month day).2 ∧
        (splitMonth lengths month day).2 ≤ lengths.getD k 0 := by
  induction lengths generalizing month day with
  | nil => simp at hday
  | cons length rest ih =>
    rw [splitMonth]
    split
    · next hin => exact ⟨0, by simp, rfl, by simp, by simp, hin⟩
    · next hlater =>
      rw [List.foldr_cons] at hday
      have hday' : day - length < rest.foldr (· + ·) 0 := by omega
      obtain ⟨k, hk, hmonth, hsum, hfirst, hlast⟩ := ih (month + 1) hday'
      refine ⟨k + 1, by simpa using hk, by omega, ?_, hfirst, by simpa using hlast⟩
      rw [List.take_succ_cons, List.foldr_cons]
      omega

/-- A date found from an ordinal has a month of the year, and that ordinal. -/
theorem ofOrdinal?_spec {ordinal : Int} {d : Date} (hd : ofOrdinal? ordinal = some d) :
    1 ≤ d.month ∧ d.month ≤ 12 ∧ (d.ordinal : Int) = ordinal := by
  unfold ofOrdinal? at hd
  split at hd
  · next hrange =>
    have hyear := splitYear_ordinal (ordinal.toNat - 1)
    have hday := splitYear_day (ordinal.toNat - 1)
    generalize splitYear (ordinal.toNat - 1) = split at hd hyear hday
    obtain ⟨year, day⟩ := split
    rw [← monthLengths_sum] at hday
    obtain ⟨k, hk, hmonth, hsum, -, -⟩ := splitMonth_spec 1 hday
    dsimp only at hd hyear hmonth hsum
    generalize splitMonth (monthLengths (isLeap year)) 1 day = place at hd hmonth hsum
    obtain ⟨month, date⟩ := place
    obtain rfl := Option.some.inj hd
    have hcount (leap : Bool) : (monthLengths leap).length = 12 := by cases leap <;> rfl
    rw [hcount] at hk
    dsimp only at hmonth hsum ⊢
    have hindex : month - 1 = k := by omega
    rw [Date.ordinal, daysBeforeMonth]
    dsimp only
    rw [hindex, ← List.sum_eq_foldl, List.sum_eq_foldr]
    omega
  · cases hd

theorem ofOrdinal?_isSome {ordinal : Int} :
    (ofOrdinal? ordinal).isSome = true ↔ 1 ≤ ordinal ∧ ordinal ≤ lastOrdinal := by
  unfold ofOrdinal?
  split <;> simp_all

end Date

/-! ## Readings of a clock -/

theorem Clock.ofMicros_valid {n : Nat} (hn : n < microsPerDay) : (Clock.ofMicros n).Valid := by
  simp only [Clock.Valid, Clock.ofMicros, microsPerSecond]
  rw [microsPerDay, microsPerSecond] at hn
  omega

structure ReadAs (reading : Int) (d : Date) (t : Clock) : Prop where
  month : 1 ≤ d.month ∧ d.month ≤ 12
  date : Date.ofOrdinal? d.ordinal = some d
  clock : t.Valid
  value : (d.ordinal : Int) * microsPerDay + t.micros = reading

theorem ofReading?_readAs {reading : Int} {d : Date} {t : Clock}
    (h : Moment.ofReading? reading = some (d, t)) : ReadAs reading d t := by
  obtain ⟨date, hdate, hpair⟩ := Option.map_eq_some_iff.mp h
  cases hpair
  obtain ⟨hfirst, hlast, hordinal⟩ := Date.ofOrdinal?_spec hdate
  have hpos : (0 : Int) < microsPerDay := by decide
  have hnonneg := Int.emod_nonneg reading (Int.ne_of_gt hpos)
  have hlt := Int.emod_lt_of_pos reading hpos
  refine ⟨⟨hfirst, hlast⟩, hordinal ▸ hdate, Clock.ofMicros_valid (by omega), ?_⟩
  rw [Clock.micros_ofMicros, hordinal, Int.toNat_of_nonneg hnonneg, Int.mul_comm]
  exact Int.mul_ediv_add_emod reading microsPerDay

def microsPerMinute : Nat := 60 * microsPerSecond

/-- The date, the hour and the minute are those of the minute of the reading. -/
theorem reading_minute {d : Date} {t : Clock} (ht : t.Valid) :
    ((d.ordinal : Int) * microsPerDay + t.micros) / microsPerMinute =
      (d.ordinal : Int) * 1440 + (t.hour * 60 + t.minute : Nat) := by
  obtain ⟨-, -, hsecond, hmicro⟩ := ht
  simp only [Clock.micros, microsPerDay, microsPerMinute, microsPerSecond] at hmicro ⊢
  omega

/-- Readings lie in one minute when date, hour and minute are the same. -/
theorem ReadAs.minute_iff {reading reading' : Int} {d d' : Date} {t t' : Clock}
    (h : ReadAs reading d t) (h' : ReadAs reading' d' t') :
    reading / microsPerMinute = reading' / microsPerMinute ↔
      d = d' ∧ t.hour = t'.hour ∧ t.minute = t'.minute := by
  rw [← h.value, ← h'.value, reading_minute h.clock, reading_minute h'.clock]
  obtain ⟨hhour, hminute, -⟩ := h.clock
  obtain ⟨hhour', hminute', -⟩ := h'.clock
  constructor
  · intro hsame
    have hordinal : d.ordinal = d'.ordinal := by omega
    have hdate := h.date
    rw [hordinal, h'.date] at hdate
    exact ⟨(Option.some.inj hdate).symm, by omega⟩
  · rintro ⟨rfl, hsame⟩
    omega

end Dossier.Calendar
