import Dossier.Value.Basic
import Dossier.Calendar.Iso

/-!
# Values on the wire

Records travel as objects without their empty entries. Inside free-form data every entry stays,
dates and times become ISO texts, and a number that is not finite becomes null.
-/

set_option autoImplicit false

namespace Dossier.Value

open Calendar Number

/-- An offset on the wire: `Z` for none, otherwise the hours and minutes in it when it is taken down
to whole seconds. -/
def wireOffset (micros : Int) : List Char :=
  let seconds := Int.fdiv micros microsPerSecond
  if seconds = 0 then ['Z']
  else
    let minutes := seconds.natAbs / 60
    (if seconds < 0 then '-' else '+') :: Iso.padded 2 (minutes / 60) ++
      ':' :: Iso.padded 2 (minutes % 60)

def wireMoment (m : Moment) : List Char :=
  Iso.momentChars 'T' { m with offset := none } ++
    match m.offset with
    | none => []
    | some offset => wireOffset offset

mutual

def toWire : Value → Value
  | .float x => if x.isFinite then .float x else .null
  | .date d => .text (String.ofList (Iso.dateChars d))
  | .moment m => .text (String.ofList (wireMoment m))
  | .clock t => .text (String.ofList (Iso.clockChars t))
  | .list items => .list (toWireItems items)
  | .object fields => .object (toWireFields fields)
  | v => v

def toWireItems : List Value → List Value
  | [] => []
  | v :: rest => toWire v :: toWireItems rest

def toWireFields : Fields → Fields
  | [] => []
  | (key, v) :: rest => (key, toWire v) :: toWireFields rest

end

def free : Value → Option Value
  | .null => none
  | v => some v.toWire

def freeObject (fields : Fields) : Value := .object (toWireFields fields)

def ofText? (s : Option String) : Option Value := s.map .text

def ofFlag? (b : Option Bool) : Option Value := b.map .bool

def ofEntries (entries : List (String × Option Value)) : Value :=
  .object (entries.filterMap fun (key, v) => v.map fun v => (key, v))

end Dossier.Value
