import Dossier.Calendar.Zone
import Dossier.Calendar.Iso
import Dossier.Failure
import Dossier.Text.Blank

/-!
# Dates as a reader sees them

A moment is shown by the clock of a time zone: month by name, day, year, the time on a clock of
twelve hours, and the short name of the local time. Only the instant counts, to the minute.
-/

set_option autoImplicit false

namespace Dossier.Calendar

open Number

def monthNames : List String :=
  ["Jan", "Feb", "Mar", "Apr", "May", "Jun", "Jul", "Aug", "Sep", "Oct", "Nov", "Dec"]

def twelveHour (hour : Nat) : Nat := if hour % 12 = 0 then 12 else hour % 12

def showLocal (d : Date) (t : Clock) (zone : String) : String :=
  monthNames.getD (d.month - 1) "" ++ " " ++ String.ofList (natText d.day) ++ ", " ++
    String.ofList (natText d.year) ++ ", " ++
    String.ofList (Iso.padded 2 (twelveHour t.hour)) ++ ":" ++
    String.ofList (Iso.padded 2 t.minute) ++ " " ++ (if t.hour < 12 then "AM" else "PM") ++ " " ++
    zone

/-- The text of an instant in a zone. The universal and the local date must lie in years 1 to
9999. -/
def showInstant (zone : Zone) (instant : Int) : Except Failure String :=
  match Moment.ofReading? instant with
  | none => .error (.fault .dateOutOfRange)
  | some _ =>
    let here := zone instant
    match Moment.ofReading? (instant + here.offset * microsPerSecond) with
    | none => .error (.fault .dateOutOfRange)
    | some (d, t) => .ok (showLocal d t here.name)

def momentOf? : Value → Option Moment
  | .moment m => some m
  | .date d => some (.ofDate d)
  | .text s => Iso.moment? (Text.trim s.toList)
  | _ => none

end Dossier.Calendar
