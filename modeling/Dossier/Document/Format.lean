import Dossier.Calendar.Shown
import Dossier.Number.Places
import Dossier.Host.Basic
import Dossier.Blueprint.Basic
import Dossier.Sync

/-!
# Formatted companions of row values

A value in a date or number column gets a companion entry with its text for the reader. Values
themselves are not changed, and a companion that is there already stays.
-/

set_option autoImplicit false

namespace Dossier

open Run Number Calendar

namespace Format

def zoneName (timeZone : Option String) : Run String :=
  match timeZone.filter (· != "") with
  | some name => pure name
  | none => (·.defaultTimeZone) <$> settings

/-- The zone of a name. A name that the database does not know, or that is none, stands for
universal time. -/
def zone (zones : Zones) (name : String) : Except Failure Zone :=
  match zones.find name with
  | .zone z => .ok z
  | .unknown => .ok .universal
  | .malformed => .ok .universal
  | .folder => .error (.fault .isFolder)
  | .tooLong => .error (.fault .nameTooLong)

/-- A date in the viewer's time zone; none when the value names no moment. -/
def date (zones : Zones) (v : Value) (viewer : Viewer) : Run (Option String) :=
  if v.isTruthy then
    match momentOf? v with
    | none => pure none
    | some m => do
      let name ← zoneName viewer.timeZone
      let zone ← lift (zone zones name)
      some <$> lift (showInstant zone m.instant)
  else pure none

/-- A number as a reader sees it; a truth value by its name. -/
def plain : Value → Except Failure String
  | .int n =>
    match showInt? n with
    | some s => .ok s
    | none => .error (.fault .numberTooLarge)
  | .float x => .ok (showBinary x)
  | .bool b => .ok (Value.bool b).display
  | _ => .error (.fault .notANumber)

def toBinary : Value → Except Failure Binary
  | .int n =>
    match Binary.ofInt? n with
    | some x => .ok x
    | none => .error (.fault .numberTooLarge)
  | .float x => .ok x
  | .bool b => .ok (.ofQuotient false (if b then 1 else 0) 1)
  | _ => .error (.fault .notANumber)

def placesDirective : String := ".2f"

/-- A value with two places. A date or time takes the directive as the text of a clock, in which it
stands for itself. -/
def withPlaces (v : Value) : Except Failure String :=
  match v with
  | .date _ => .ok placesDirective
  | .moment _ => .ok placesDirective
  | .clock _ => .ok placesDirective
  | .text _ => .error (.fault .textForNumber)
  | v => (toBinary v).map twoPlaces

/-- A percentage with two places; zero has none, and an empty value that is no number has no
text. -/
def percent (v : Value) : Except Failure String :=
  if v.isTruthy then (withPlaces v).map (· ++ "%")
  else .ok (if v.numeric?.isSome then "0%" else "")

def number (v : Value) (column : Column) : Except Failure String :=
  match column.format with
  | some .percent => percent v
  | none => plain v

def companion (property : String) : String := property ++ "Formatted"

def addDate (zones : Zones) (row : Fields) (column : Column) (viewer : Viewer) : Run Fields :=
  let key := companion column.property
  if (row.get key).isTruthy then pure row
  else do
    let shown ← date zones (row.get column.property) viewer
    match shown with
    | some s => pure (row.put key (.text s))
    | none => pure row

def addNumber (row : Fields) (column : Column) : Except Failure Fields :=
  let key := companion column.property
  let v := row.get column.property
  if (row.get key).isTruthy then .ok row
  else match v with
    | .int _ => (number v column).map fun s => row.put key (.text s)
    | .float _ => (number v column).map fun s => row.put key (.text s)
    | _ => .ok row

def addDates (zones : Zones) (viewer : Viewer) : List Column → Fields → Run Fields
  | [], row => pure row
  | c :: rest, row => do
    let row ← addDate zones row c viewer
    addDates zones viewer rest row

def addNumbers : List Column → Fields → Except Failure Fields
  | [], row => .ok row
  | c :: rest, row =>
    match addNumber row c with
    | .error e => .error e
    | .ok row => addNumbers rest row

def row (zones : Zones) (dates numbers : List Column) (viewer : Viewer) (r : Fields) :
    Run Fields := do
  let r ← addDates zones viewer dates r
  lift (addNumbers numbers r)

def rows (zones : Zones) (dates numbers : List Column) (viewer : Viewer) :
    List Fields → Run (List Fields)
  | [] => pure []
  | r :: rest => do
    let r ← row zones dates numbers viewer r
    let rest ← rows zones dates numbers viewer rest
    pure (r :: rest)

end Format

end Dossier
