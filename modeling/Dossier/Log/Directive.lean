import Dossier.Text.Digit

/-!
# Directives of a message template

A directive starts with a percent sign. After it stand, all but the last optional: a name in
parentheses, flags, a width, a point with a precision, a letter for the size of the value, which
means nothing, and the letter of the form. Width and precision are digits, or a star for an
argument. Two percent signs in a row are a percent sign.
-/

set_option autoImplicit false

namespace Dossier.Log

open Text

structure Directive where
  name : Option String
  /-- The body stands at the left of its width. -/
  left : Bool
  plus : Bool
  blank : Bool
  alternate : Bool
  zeros : Bool
  width : Nat
  /-- The width is an argument. -/
  widthGiven : Bool
  precision : Option Nat
  /-- The precision is an argument. -/
  precisionGiven : Bool
  /-- The letter of the form; none when the template ends before it. -/
  form : Option Char
  deriving DecidableEq, Repr

namespace Directive

/-- A name up to the parenthesis that closes it; parentheses inside it come in pairs. -/
def closing : Nat → List Char → Option (List Char × List Char)
  | _, [] => none
  | depth, c :: rest =>
    if c = ')' ∧ depth = 0 then some ([], rest)
    else
      let depth := if c = '(' then depth + 1 else if c = ')' then depth - 1 else depth
      (closing depth rest).map fun (name, rest) => (c :: name, rest)

def readName (s : List Char) : Option (Option String × List Char) :=
  match s with
  | '(' :: rest => (closing 0 rest).map fun (name, rest) => (some (String.ofList name), rest)
  | _ => some (none, s)

def isFlag (c : Char) : Bool := ['-', '+', ' ', '#', '0'].contains c

def readSize (s : List Char) : Nat × Bool × List Char :=
  match s with
  | '*' :: rest => (0, true, rest)
  | _ =>
    let digits := s.takeWhile isDigit
    (digitsValue digits, false, s.drop digits.length)

def readPrecision (s : List Char) : Option Nat × Bool × List Char :=
  match s with
  | '.' :: rest =>
    let (n, given, rest) := readSize rest
    (if given then none else some n, given, rest)
  | _ => (none, false, s)

def dropSize (s : List Char) : List Char :=
  match s with
  | 'h' :: rest => rest
  | 'l' :: rest => rest
  | 'L' :: rest => rest
  | _ => s

def read? (s : List Char) : Option (Directive × List Char) := do
  let (name, s) ← readName s
  let flags := s.takeWhile isFlag
  let (width, widthGiven, s) := readSize (s.drop flags.length)
  let (precision, precisionGiven, s) := readPrecision s
  let s := dropSize s
  some (⟨name, flags.contains '-', flags.contains '+', flags.contains ' ', flags.contains '#',
    flags.contains '0', width, widthGiven, precision, precisionGiven, s.head?⟩, s.drop 1)

end Directive

/-- A template is made of characters and directives. A name that is not closed ends it. -/
inductive Piece where
  | char (c : Char)
  | directive (d : Directive)
  | unclosed
  deriving DecidableEq, Repr

namespace Piece

/-- The pieces of a template. Each takes at least one character, so its length is fuel enough. -/
def ofCharsWithin : Nat → List Char → List Piece
  | 0, _ => []
  | _ + 1, [] => []
  | fuel + 1, '%' :: '%' :: rest => .char '%' :: ofCharsWithin fuel rest
  | fuel + 1, '%' :: rest =>
    match Directive.read? rest with
    | some (d, rest) => .directive d :: ofCharsWithin fuel rest
    | none => [.unclosed]
  | fuel + 1, c :: rest => .char c :: ofCharsWithin fuel rest

def ofChars (s : List Char) : List Piece := ofCharsWithin s.length s

end Piece

end Dossier.Log
