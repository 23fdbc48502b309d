import Dossier.Value.Basic
import Dossier.Number.Decimal
import Dossier.Text.Digit

/-!
# Reading JSON text

A document is one value between blanks. Objects keep the order in which their keys first appear,
and a repeated key has its last value. Besides the standard, `NaN` and the two infinities are
read as numbers. A number with a fraction or an exponent is binary, any other an integer, which
may not have more digits than the limit for texts of integers. Lists and objects lie in each other
up to a limit of levels, which is not a matter of the format: what can be read is bounded by the
stack of the program that reads.

Every step of the reader hands on a remainder that is no longer than what it was given, and each
value takes at least one character; the fuel is the length of the text.
-/

set_option autoImplicit false

namespace Dossier.Json

open Number Text

inductive Trouble where
  | malformed
  | tooManyDigits
  | tooDeep
  deriving DecidableEq, Repr

abbrev Reading (α : Type) := Except Trouble (α × List Char)

def isSpace (c : Char) : Bool := c == ' ' || c == '\t' || c == '\n' || c == '\r'

def skipSpace (s : List Char) : List Char := s.dropWhile isSpace

def literal? : List Char → List Char → Option (List Char)
  | [], s => some s
  | c :: rest, d :: s => if c = d then literal? rest s else none
  | _ :: _, [] => none

def hexDigit? (c : Char) : Option Nat :=
  if isDigit c then some (c.toNat - 48)
  else if 'a' ≤ c && c ≤ 'f' then some (c.toNat - 87)
  else if 'A' ≤ c && c ≤ 'F' then some (c.toNat - 55)
  else none

def hexFour? : List Char → Option (Nat × List Char)
  | a :: b :: c :: d :: rest => do
    let a ← hexDigit? a
    let b ← hexDigit? b
    let c ← hexDigit? c
    let d ← hexDigit? d
    some (((a * 16 + b) * 16 + c) * 16 + d, rest)
  | _ => none

def isHighSurrogate (n : Nat) : Bool := 0xD800 ≤ n && n ≤ 0xDBFF

def isLowSurrogate (n : Nat) : Bool := 0xDC00 ≤ n && n ≤ 0xDFFF

/-- The character of a code unit. A text is made of characters, so a surrogate that stands alone,
which an escape can name, has no place in it and becomes the replacement character. -/
def unitChar (n : Nat) : Char :=
  if isHighSurrogate n || isLowSurrogate n then '\uFFFD' else Char.ofNat n

def unicodeEscape? (s : List Char) : Option (Char × List Char) := do
  let (first, rest) ← hexFour? s
  if isHighSurrogate first then
    match rest with
    | '\\' :: 'u' :: more =>
      match hexFour? more with
      | some (second, after) =>
        if isLowSurrogate second then
          some (Char.ofNat (0x10000 + (first - 0xD800) * 0x400 + (second - 0xDC00)), after)
        else some (unitChar first, rest)
      | none => some (unitChar first, rest)
    | _ => some (unitChar first, rest)
  else some (unitChar first, rest)

def simpleEscape? : Char → Option Char
  | '"' => some '"'
  | '\\' => some '\\'
  | '/' => some '/'
  | 'b' => some '\x08'
  | 'f' => some '\x0c'
  | 'n' => some '\n'
  | 'r' => some '\r'
  | 't' => some '\t'
  | _ => none

/-- The rest of a string after its opening quote; `done` holds the characters read, last first. -/
def stringTail? : Nat → List Char → List Char → Option (String × List Char)
  | 0, _, _ => none
  | _ + 1, _, [] => none
  | _ + 1, done, '"' :: rest => some (String.ofList done.reverse, rest)
  | fuel + 1, done, '\\' :: 'u' :: rest =>
    match unicodeEscape? rest with
    | some (c, rest) => stringTail? fuel (c :: done) rest
    | none => none
  | fuel + 1, done, '\\' :: c :: rest =>
    match simpleEscape? c with
    | some c => stringTail? fuel (c :: done) rest
    | none => none
  | fuel + 1, done, c :: rest =>
    if c.toNat < 0x20 || c = '\\' then none else stringTail? fuel (c :: done) rest

def fraction (s : List Char) : Option (List Char) × List Char :=
  match s with
  | '.' :: c :: rest =>
    if isDigit c then
      let digits := (c :: rest).takeWhile isDigit
      (some digits, (c :: rest).drop digits.length)
    else (none, s)
  | _ => (none, s)

def exponent (s : List Char) : Option Int × List Char :=
  match s with
  | mark :: rest =>
    if mark = 'e' || mark = 'E' then
      let (negative, rest) := match rest with
        | '+' :: rest => (false, rest)
        | '-' :: rest => (true, rest)
        | _ => (false, rest)
      let digits := rest.takeWhile isDigit
      if digits.isEmpty then (none, s)
      else
        let size : Int := digitsValue digits
        (some (if negative then -size else size), rest.drop digits.length)
    else (none, s)
  | [] => (none, s)

def integer (negative : Bool) (digits : List Char) : Except Trouble Value :=
  if digits.length > integerDigits then .error .tooManyDigits
  else
    let size : Int := digitsValue digits
    .ok (.int (if negative then -size else size))

/-- A number. A whole part of several digits does not start with zero. -/
def number (s : List Char) : Reading Value :=
  let (negative, body) := match s with
    | '-' :: rest => (true, rest)
    | _ => (false, s)
  let whole := match body with
    | '0' :: _ => ['0']
    | _ => body.takeWhile isDigit
  if whole.isEmpty then .error .malformed
  else
    let (places, rest) := fraction (body.drop whole.length)
    let (power, rest) := exponent rest
    match places, power with
    | none, none => (integer negative whole).map fun v => (v, rest)
    | _, _ =>
      let places := places.getD []
      let decimal : Decimal :=
        ⟨negative, digitsValue (whole ++ places), power.getD 0 - places.length⟩
      .ok (.float decimal.toBinary, rest)

def word? (s : List Char) : Option (Value × List Char) :=
  let words : List (String × Value) :=
    [("null", .null), ("true", .bool true), ("false", .bool false), ("NaN", .float .nan),
     ("Infinity", .float (.infinite false)), ("-Infinity", .float (.infinite true))]
  words.findSome? fun (word, value) =>
    (literal? word.toList s).map fun rest => (value, rest)

def string (s : List Char) : Reading String :=
  match stringTail? (s.length + 1) [] s with
  | some found => .ok found
  | none => .error .malformed

/-- How deep lists and objects may lie in each other. The number stands for the room on the stack
with which a file is read when a program starts; a caller that is itself nested has less. -/
def levelLimit : Nat := 975

mutual

def value : Nat → Nat → List Char → Reading Value
  | 0, _, _ => .error .malformed
  | fuel + 1, levels, s =>
    match s, levels with
    | '"' :: rest, _ => (string rest).map fun (t, r) => (.text t, r)
    | '[' :: _, 0 => .error .tooDeep
    | '\x7b' :: _, 0 => .error .tooDeep
    | '[' :: rest, levels + 1 =>
      match skipSpace rest with
      | ']' :: after => .ok (.list [], after)
      | inner => (items fuel levels inner).map fun (items, r) => (.list items, r)
    | '\x7b' :: rest, levels + 1 =>
      match skipSpace rest with
      | '\x7d' :: after => .ok (.object [], after)
      | inner =>
        (entries fuel levels inner).map fun (entries, r) => (.object (Fields.ofEntries entries), r)
    | s, _ =>
      match word? s with
      | some found => .ok found
      | none => number s

def items : Nat → Nat → List Char → Reading (List Value)
  | 0, _, _ => .error .malformed
  | fuel + 1, levels, s =>
    match value fuel levels (skipSpace s) with
    | .error e => .error e
    | .ok (v, rest) =>
      match skipSpace rest with
      | ',' :: more => (items fuel levels more).map fun (items, r) => (v :: items, r)
      | ']' :: after => .ok ([v], after)
      | _ => .error .malformed

def entries : Nat → Nat → List Char → Reading Fields
  | 0, _, _ => .error .malformed
  | fuel + 1, levels, s =>
    match skipSpace s with
    | '"' :: body =>
      match string body with
      | .error e => .error e
      | .ok (key, rest) =>
        match skipSpace rest with
        | ':' :: rest =>
          match value fuel levels (skipSpace rest) with
          | .error e => .error e
          | .ok (v, rest) =>
            match skipSpace rest with
            | ',' :: more =>
              (entries fuel levels more).map fun (entries, r) => ((key, v) :: entries, r)
            | '\x7d' :: after => .ok ([(key, v)], after)
            | _ => .error .malformed
        | _ => .error .malformed
    | _ => .error .malformed

end

def read (s : String) : Except Trouble Value :=
  let chars := s.toList
  match value (2 * chars.length + 2) levelLimit (skipSpace chars) with
  | .error e => .error e
  | .ok (v, rest) => if (skipSpace rest).isEmpty then .ok v else .error .malformed

end Dossier.Json
