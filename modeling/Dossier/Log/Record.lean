import Dossier.Log.Message
import Dossier.Calendar.Moment
import Dossier.Calendar.Iso
import Dossier.Value.Basic
import Dossier.Text.Line

/-!
# Log records

A record is written as one object: its time, level, logger and message, and the error attached to
it. Times are seconds since 1970, rounded to microseconds with a half going to the even one.
-/

set_option autoImplicit false

namespace Dossier.Log

open Number Calendar

def levelName (level : Int) : String :=
  let names : List (Int × String) :=
    [(50, "CRITICAL"), (40, "ERROR"), (30, "WARNING"), (20, "INFO"), (10, "DEBUG"), (0, "NOTSET")]
  match names.lookup level with
  | some name => name
  | none => "Level " ++ intText level

/-- Microseconds of a time in seconds. The part below a second is multiplied as a binary number. -/
def micros (seconds : Rat) : Int :=
  let whole := Int.tdiv seconds.num seconds.den
  let part := ((Binary.ofRat ((seconds - whole) * microsPerSecond)).toRat?).getD 0
  let size : Int := roundDiv part.num.natAbs part.den
  whole * microsPerSecond + (if part < 0 then -size else size)

def firstCalendarSecond : Int := -67768040609740800

def lastCalendarSecond : Int := 67768036191676799

/-- The moment of a time in seconds since 1970. The seconds must fit in 64 bits, the system's
calendar must number the year, and it must be one of the years 1 to 9999. -/
def moment (seconds : Rat) : Except Mismatch Moment :=
  let micros := micros seconds
  let second := Int.fdiv micros microsPerSecond
  if !(-9223372036854775808 ≤ second && second ≤ 9223372036854775807) then .error .tooLarge
  else if second < firstCalendarSecond || lastCalendarSecond < second then
    .error .timeBeyondCalendar
  else match Moment.ofReading? (epochSeconds * microsPerSecond + micros) with
    | some (d, t) => .ok ⟨d, t, some 0⟩
    | none => .error .timeOutOfRange

def exactTime : Value.Numeric → Except Mismatch Rat
  | .int n => .ok n
  | .float .nan => .error .timeOutOfRange
  | .float (.infinite _) => .error .tooLarge
  | .float x => .ok ((x.toRat?).getD 0)

structure Record where
  logger : String
  level : Int
  template : String
  args : List Value
  created : Value.Numeric
  /-- The kind and message of an attached error. -/
  error : Option (String × String)

def Record.time (r : Record) : Except Mismatch String :=
  ((exactTime r.created).bind moment).map fun m => String.ofList (Iso.momentChars 'T' m)

def report (kind message : String) : String :=
  if message.isEmpty then kind else kind ++ ": " ++ message

def lastLine (report : String) : String :=
  String.ofList ((Text.lines report.toList).getLastD [])

def Record.toFields (r : Record) : Except Mismatch Fields := do
  let time ← r.time
  let text ← message r.template r.args
  pure ([("timestamp", .text time), ("level", .text (levelName r.level)),
    ("logger", .text r.logger), ("message", .text text)] ++
    match r.error with
    | some (kind, message) => [("exception", .text (lastLine (report kind message)))]
    | none => [])

end Dossier.Log
