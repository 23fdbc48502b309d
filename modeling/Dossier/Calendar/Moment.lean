import Dossier.Calendar.Date

/-!
# Moments

A moment is a date and a time of day, with an offset from universal time or without one. A moment
with an offset names an instant, counted in microseconds. One without an offset is taken as
universal time wherever an instant is needed.
-/

set_option autoImplicit false

namespace Dossier.Calendar

structure Clock where
  hour : Nat
  minute : Nat
  second : Nat
  micro : Nat
  deriving DecidableEq, Repr, Inhabited

def microsPerSecond : Nat := 1000000

def microsPerDay : Nat := 86400 * microsPerSecond

def epochSeconds : Int := 719163 * 86400

namespace Clock

def Valid (t : Clock) : Prop :=
  t.hour < 24 ∧ t.minute < 60 ∧ t.second < 60 ∧ t.micro < microsPerSecond

instance (t : Clock) : Decidable t.Valid := by unfold Valid; infer_instance

def midnight : Clock := ⟨0, 0, 0, 0⟩

def of? (hour minute second micro : Nat) : Option Clock :=
  let t : Clock := ⟨hour, minute, second, micro⟩
  if t.Valid then some t else none

def micros (t : Clock) : Nat :=
  ((t.hour * 60 + t.minute) * 60 + t.second) * microsPerSecond + t.micro

def ofMicros (n : Nat) : Clock :=
  let seconds := n / microsPerSecond
  ⟨seconds / 3600, seconds / 60 % 60, seconds % 60, n % microsPerSecond⟩

theorem micros_ofMicros (n : Nat) : (ofMicros n).micros = n := by
  simp only [micros, ofMicros, microsPerSecond]
  omega

theorem ofMicros_micros (t : Clock) (h : t.Valid) : ofMicros t.micros = t := by
  obtain ⟨hour, minute, second, micro⟩ := t
  simp only [Valid, microsPerSecond] at h
  simp only [micros, ofMicros, microsPerSecond, Clock.mk.injEq]
  omega

end Clock

/-- A date and time of day; the offset, in microseconds east of universal time, may be unknown. -/
structure Moment where
  date : Date
  clock : Clock
  offset : Option Int
  deriving DecidableEq, Repr, Inhabited

namespace Moment

def reading (m : Moment) : Int := m.date.ordinal * microsPerDay + m.clock.micros

def instant (m : Moment) : Int := m.reading - m.offset.getD 0

/-- The date and time of day that a clock shows at a reading; none outside years 1 to 9999. -/
def ofReading? (reading : Int) : Option (Date × Clock) :=
  (Date.ofOrdinal? (reading / microsPerDay)).map fun date =>
    (date, Clock.ofMicros (reading % microsPerDay).toNat)

def ofDate (d : Date) : Moment := ⟨d, .midnight, none⟩

/-- The order of two moments: by instant when both have an offset, by reading when neither has.
A moment with an offset and one without have no order. -/
def compare? (a b : Moment) : Option Ordering :=
  match a.offset, b.offset with
  | some _, some _ => some (compare a.instant b.instant)
  | none, none => some (compare a.reading b.reading)
  | _, _ => none

end Moment

end Dossier.Calendar
