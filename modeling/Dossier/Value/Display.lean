import Dossier.Value.Basic
import Dossier.Calendar.Iso
import Dossier.Text.Quoted

/-!
# Displayed values

The text by which a value is shown where a label or message is expected and something else is
given, and from which the width of a cell is counted. A text shows as itself, inside a list or an
object it is quoted. Dates show in ISO form on their own and by their parts inside. An integer
shows with all its digits, however many: the limit for texts of integers holds for reading, and an
integer that was read keeps to it.
-/

set_option autoImplicit false

namespace Dossier.Value

open Number Calendar

def bracketed (opening closing : String) (items : List String) : String :=
  opening ++ String.intercalate ", " items ++ closing

def natString (n : Nat) : String := String.ofList (natText n)

/-- The parts of a time of day; seconds and microseconds only as far as there are any. -/
def clockParts (t : Clock) : List String :=
  let seconds := if t.second = 0 ∧ t.micro = 0 then [] else [natString t.second]
  let micros := if t.micro = 0 then [] else [natString t.micro]
  [natString t.hour, natString t.minute] ++ seconds ++ micros

def displaySpan (micros : Int) : String :=
  let days := micros / microsPerDay
  let rest := (micros % microsPerDay).toNat
  let seconds := rest / microsPerSecond
  let micros := rest % microsPerSecond
  let parts :=
    (if days = 0 then [] else ["days=" ++ intText days]) ++
    (if seconds = 0 then [] else ["seconds=" ++ natString seconds]) ++
    (if micros = 0 then [] else ["microseconds=" ++ natString micros])
  bracketed "datetime.timedelta(" ")" (if parts.isEmpty then ["0"] else parts)

def displayOffset (micros : Int) : String :=
  if micros = 0 then "datetime.timezone.utc"
  else bracketed "datetime.timezone(" ")" [displaySpan micros]

def dateParts (d : Date) : List String :=
  [natString d.year, natString d.month, natString d.day]

mutual

def displayInside : Value → String
  | .null => "None"
  | .bool b => if b then "True" else "False"
  | .int n => intText n
  | .float x => Style.data.write x
  | .text s => Text.quoted s
  | .date d => bracketed "datetime.date(" ")" (dateParts d)
  | .moment m =>
    let zone := match m.offset with
      | none => []
      | some offset => ["tzinfo=" ++ displayOffset offset]
    bracketed "datetime.datetime(" ")" (dateParts m.date ++ clockParts m.clock ++ zone)
  | .clock t => bracketed "datetime.time(" ")" (clockParts t)
  | .list items => bracketed "[" "]" (displayItems items)
  | .object fields => bracketed "\x7b" "\x7d" (displayFields fields)

def displayItems : List Value → List String
  | [] => []
  | v :: rest => displayInside v :: displayItems rest

def displayFields : Fields → List String
  | [] => []
  | (key, v) :: rest => (Text.quoted key ++ ": " ++ displayInside v) :: displayFields rest

end

def display : Value → String
  | .text s => s
  | .date d => String.ofList (Iso.dateChars d)
  | .moment m => String.ofList (Iso.momentChars ' ' m)
  | .clock t => String.ofList (Iso.clockChars t)
  | v => displayInside v

end Dossier.Value
