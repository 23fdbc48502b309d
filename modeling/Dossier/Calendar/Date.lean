/-!
# Calendar dates

Dates of the Gregorian calendar from year 1 to year 9999 and their ordinals: the first of January
of year 1 is day 1. Reading a date back from its ordinal counts whole cycles of 400, 100, 4 and
1 years, then months.
-/

set_option autoImplicit false

namespace Dossier.Calendar

structure Date where
  year : Nat
  month : Nat
  day : Nat
  deriving DecidableEq, Repr, Inhabited

def isLeap (year : Nat) : Bool :=
  year % 4 == 0 && (year % 100 != 0 || year % 400 == 0)

def monthLengths (leap : Bool) : List Nat :=
  [31, if leap then 29 else 28, 31, 30, 31, 30, 31, 31, 30, 31, 30, 31]

def daysInMonth (year month : Nat) : Nat :=
  (monthLengths (isLeap year)).getD (month - 1) 0

def daysBeforeYear (year : Nat) : Nat :=
  let past := year - 1
  365 * past + past / 4 - past / 100 + past / 400

def daysBeforeMonth (year month : Nat) : Nat :=
  ((monthLengths (isLeap year)).take (month - 1)).foldl (· + ·) 0

def lastYear : Nat := 9999

def lastOrdinal : Nat := 3652059

namespace Date

def Valid (d : Date) : Prop :=
  1 ≤ d.year ∧ d.year ≤ lastYear ∧ 1 ≤ d.month ∧ d.month ≤ 12 ∧
    1 ≤ d.day ∧ d.day ≤ daysInMonth d.year d.month

instance (d : Date) : Decidable d.Valid := by unfold Valid; infer_instance

def of? (year month day : Nat) : Option Date :=
  let d : Date := ⟨year, month, day⟩
  if d.Valid then some d else none

def ordinal (d : Date) : Nat :=
  daysBeforeYear d.year + daysBeforeMonth d.year d.month + d.day

def splitMonth : List Nat → Nat → Nat → Nat × Nat
  | [], month, day => (month, day + 1)
  | length :: rest, month, day =>
    if day < length then (month, day + 1) else splitMonth rest (month + 1) (day - length)

def splitYear (day : Nat) : Nat × Nat :=
  let centuries4 := day / 146097
  let r := day % 146097
  let centuries := min 3 (r / 36524)
  let r := r - centuries * 36524
  let years4 := r / 1461
  let r := r % 1461
  let years := min 3 (r / 365)
  (centuries4 * 400 + centuries * 100 + years4 * 4 + years + 1, r - years * 365)

def ofOrdinal? (ordinal : Int) : Option Date :=
  if 1 ≤ ordinal ∧ ordinal ≤ lastOrdinal then
    let (year, day) := splitYear (ordinal.toNat - 1)
    let (month, day) := splitMonth (monthLengths (isLeap year)) 1 day
    some ⟨year, month, day⟩
  else none

/-- The day of the week of an ordinal; Monday is 0. -/
def weekday (ordinal : Int) : Nat := ((ordinal + 6) % 7).toNat

def firstMonday (year : Nat) : Int :=
  let first : Int := daysBeforeYear year + 1
  let day := weekday first
  let monday := first - day
  if 3 < day then monday + 7 else monday

/-- Whether a year has 53 weeks: it starts on a Thursday, or is a leap year that starts on a
Wednesday. -/
def hasLongYear (year : Nat) : Bool :=
  let day := weekday (daysBeforeYear year + 1)
  day == 3 || (day == 2 && isLeap year)

def ofWeek? (year week day : Nat) : Option Date :=
  if 1 ≤ year ∧ 1 ≤ week ∧ (week ≤ 52 ∨ (week = 53 ∧ hasLongYear year)) ∧ 1 ≤ day ∧ day ≤ 7 then
    ofOrdinal? (firstMonday year + (week - 1) * 7 + (day - 1))
  else none

end Date

end Dossier.Calendar
