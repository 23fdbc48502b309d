import Dossier.Template.Piece
import Dossier.Template.Meaning
import Dossier.Failure

/-!
# Resolving placeholders

A pass takes the placeholders found in a text, from left to right, and replaces each by what it
stands for, at the first place where its text then occurs. Passes follow one another until no
placeholder is left, since what is written may itself hold placeholders; their number is limited.

A blank placeholder is always an error. An unknown one is an error too, unless errors are
suppressed: then the rest of the pass leaves the text as it is, and no further pass follows.
-/

set_option autoImplicit false

namespace Dossier.Template

def replaceFirst (old new : List Char) : List Char → List Char
  | [] => []
  | c :: rest =>
    if old.isPrefixOf (c :: rest) then new ++ (c :: rest).drop old.length
    else c :: replaceFirst old new rest

/-- How placeholders are resolved. `nothing` is the text written for nothing; without one, nothing
makes the whole text missing. -/
structure Rules where
  meaning : List Char → Meaning
  suppress : Bool
  nothing : Option (List Char)

/-- Why resolution came to no result. Placeholders are given by the text between the braces. -/
inductive Halt where
  | invalid (body : List Char)
  | tooManyPasses (body : List Char)
  | tooLarge
  deriving DecidableEq, Repr

/-- How a pass ended: with all placeholders replaced, at an unknown one, or at one that makes the
text missing. -/
inductive Pass where
  | complete (s : List Char)
  | stopped (s : List Char)
  | missing
  deriving DecidableEq, Repr

def isBlankBody (body : List Char) : Bool := (Text.trim body).isEmpty

def stop (later : List (List Char)) (s : List Char) : Except Halt Pass :=
  match later.find? isBlankBody with
  | some body => .error (.invalid body)
  | none => .ok (.stopped s)

def pass (r : Rules) : List (List Char) → List Char → Except Halt Pass
  | [], s => .ok (.complete s)
  | body :: later, s =>
    if isBlankBody body then .error (.invalid body)
    else match r.meaning (Text.trim body) with
      | .unknown => if r.suppress then stop later s else .error (.invalid body)
      | .tooLarge => .error .tooLarge
      | .text t => pass r later (replaceFirst (wrap body) t s)
      | .nothing =>
        match r.nothing with
        | none => .ok .missing
        | some t => pass r later (replaceFirst (wrap body) t s)

/-- Passes until no placeholder is left. The result is none when the text is missing. -/
def passes (r : Rules) : Nat → List Char → Except Halt (Option (List Char))
  | left, s =>
    match placeholders s with
    | [] => .ok (some s)
    | body :: later =>
      match left with
      | 0 => .error (.tooManyPasses body)
      | left + 1 =>
        match pass r (body :: later) s with
        | .error halt => .error halt
        | .ok (.complete t) => passes r left t
        | .ok (.stopped t) => .ok (some t)
        | .ok .missing => .ok none

structure Setting where
  environment : Environment
  limit : Int

def Halt.toFailure (limit : Int) : Halt → Failure
  | .invalid body => .invalidToken (String.ofList (wrap body))
  | .tooManyPasses body => .tokenRecursion (String.ofList (wrap body)) limit
  | .tooLarge => .fault .numberTooLarge

def run (setting : Setting) (scope : Fields) (suppress : Bool) (nothing : Option (List Char))
    (s : String) : Except Failure (Option String) :=
  match passes ⟨meaning setting.environment scope, suppress, nothing⟩ setting.limit.toNat s.toList
  with
  | .error halt => .error (halt.toFailure setting.limit)
  | .ok result => .ok (result.map String.ofList)

/-- Resolve a text; nothing is written as the empty text. -/
def resolve (setting : Setting) (scope : Fields) (suppress : Bool) (s : String) :
    Except Failure String :=
  (run setting scope suppress (some []) s).map (·.getD "")

def resolveOrMissing (setting : Setting) (scope : Fields) (suppress : Bool) (s : String) :
    Except Failure (Option String) :=
  run setting scope suppress none s

mutual

def resolveValue (setting : Setting) (scope : Fields) (suppress : Bool) :
    Value → Except Failure Value
  | .text s => (resolve setting scope suppress s).map .text
  | .list items => (resolveItems setting scope suppress items).map .list
  | .object fields => (resolveFields setting scope suppress fields).map .object
  | v => .ok v

def resolveItems (setting : Setting) (scope : Fields) (suppress : Bool) :
    List Value → Except Failure (List Value)
  | [] => .ok []
  | v :: rest =>
    match resolveValue setting scope suppress v with
    | .error e => .error e
    | .ok w => (resolveItems setting scope suppress rest).map (w :: ·)

def resolveFields (setting : Setting) (scope : Fields) (suppress : Bool) :
    Fields → Except Failure Fields
  | [] => .ok []
  | (key, v) :: rest =>
    match resolveValue setting scope suppress v with
    | .error e => .error e
    | .ok w => (resolveFields setting scope suppress rest).map ((key, w) :: ·)

end

mutual

def hasText : Value → Bool
  | .text _ => true
  | .list items => hasTextItems items
  | .object fields => hasTextFields fields
  | _ => false

def hasTextItems : List Value → Bool
  | [] => false
  | v :: rest => hasText v || hasTextItems rest

def hasTextFields : Fields → Bool
  | [] => false
  | (_, v) :: rest => hasText v || hasTextFields rest

end

/-- Resolve the entries of an object that are texts themselves; others stay as they are. -/
def resolveEntries (setting : Setting) (scope : Fields) : Fields → Except Failure Fields
  | [] => .ok []
  | (key, .text s) :: rest =>
    match resolve setting scope false s with
    | .error e => .error e
    | .ok t => (resolveEntries setting scope rest).map ((key, .text t) :: ·)
  | (key, v) :: rest => (resolveEntries setting scope rest).map ((key, v) :: ·)

end Dossier.Template
