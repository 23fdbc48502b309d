import Dossier.Value.Basic
import Dossier.Number.Notation
import Dossier.Text.Blank

/-!
# What a placeholder stands for

The text between the braces, without blanks at its ends, is a path of names joined by points. A
path of two names that starts with `env` names an environment variable, which must be set and not
empty. Any other path is walked through the objects of the scope. Texts, numbers and truth values
can be written into a text, null stands for nothing, and all other values cannot be written.
-/

set_option autoImplicit false

namespace Dossier.Template

open Number

abbrev Environment := List (String × String)

/-- What a placeholder stands for. A number too large for a binary number cannot be written. -/
inductive Meaning where
  | unknown
  | nothing
  | text (s : List Char)
  | tooLarge
  deriving DecidableEq, Repr

def names : List Char → List (List Char)
  | [] => [[]]
  | c :: rest =>
    if c = '.' then [] :: names rest
    else match names rest with
      | [] => [[c]]
      | name :: more => (c :: name) :: more

def walk : Value → List String → Option Value
  | v, [] => some v
  | .object fields, name :: rest =>
    match fields.lookup name with
    | some v => walk v rest
    | none => none
  | _, _ :: _ => none

def written : Value → Meaning
  | .null => .nothing
  | .bool b => .text (if b then "true".toList else "false".toList)
  | .int n =>
    match showInt? n with
    | some s => .text s.toList
    | none => .tooLarge
  | .float x => .text (showBinary x).toList
  | .text s => .text s.toList
  | _ => .unknown

def variableName? : List String → Option String
  | ["env", name] => some name
  | _ => none

def meaning (env : Environment) (scope : Fields) (path : List Char) : Meaning :=
  let path := (names path).map String.ofList
  match variableName? path with
  | some name =>
    match env.lookup name with
    | some s => if s.isEmpty then .unknown else .text s.toList
    | none => .unknown
  | none =>
    match walk (.object scope) path with
    | some v => written v
    | none => .unknown

end Dossier.Template
