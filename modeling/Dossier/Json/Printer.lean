import Dossier.Value.Basic
import Dossier.Number.Notation
import Dossier.Calendar.Iso
import Dossier.Text.Quoted

/-!
# JSON text of a value

Control characters, quotes and backslashes are escaped, all other characters stand as they are.
Dates and times are written as ISO texts. An entry that is null is written like any other.
-/

set_option autoImplicit false

namespace Dossier.Json

open Number Calendar

def controlEscape (n : Nat) : List Char := '\\' :: 'u' :: Text.hexDigits 4 n

def escapeChar (c : Char) : List Char :=
  match c with
  | '"' => ['\\', '"']
  | '\\' => ['\\', '\\']
  | '\n' => ['\\', 'n']
  | '\r' => ['\\', 'r']
  | '\t' => ['\\', 't']
  | c => if c.toNat < 0x20 then controlEscape c.toNat else [c]

def stringText (s : String) : String :=
  String.ofList ('"' :: (s.toList.flatMap escapeChar ++ ['"']))

mutual

def print : Value → String
  | .null => "null"
  | .bool b => if b then "true" else "false"
  | .int n => intText n
  | .float x => Style.json.write x
  | .text s => stringText s
  | .date d => stringText (String.ofList (Iso.dateChars d))
  | .moment m => stringText (String.ofList (Iso.momentChars 'T' m))
  | .clock t => stringText (String.ofList (Iso.clockChars t))
  | .list items => "[" ++ String.intercalate "," (printItems items) ++ "]"
  | .object fields => "\x7b" ++ String.intercalate "," (printFields fields) ++ "\x7d"

def printItems : List Value → List String
  | [] => []
  | v :: rest => print v :: printItems rest

def printFields : Fields → List String
  | [] => []
  | (key, v) :: rest => (stringText key ++ ":" ++ print v) :: printFields rest

end

end Dossier.Json
