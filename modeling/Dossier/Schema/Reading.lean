import Dossier.Schema.Issue
import Dossier.Number.Decimal
import Dossier.Text.Blank
import Dossier.Text.Digit

/-!
# Reading values against a record type

A reading gives the typed value or all issues found. Values are taken liberally: a number may be
written as a text, a truth value as a word or as 0 or 1, a whole number with an empty fraction.
An entry of a record is found under its own key or under the underscored spelling of it, the own
key first. Issues of several entries are collected in the order of the entries.
-/

set_option autoImplicit false

namespace Dossier.Schema

open Number Text

inductive Checked (α : Type) where
  | ok (value : α)
  | bad (issues : List Issue)

namespace Checked

variable {α β : Type}

def map (f : α → β) : Checked α → Checked β
  | .ok a => .ok (f a)
  | .bad issues => .bad issues

def seq (f : Checked (α → β)) (x : Checked α) : Checked β :=
  match f, x with
  | .ok f, .ok a => .ok (f a)
  | .ok _, .bad issues => .bad issues
  | .bad issues, .ok _ => .bad issues
  | .bad first, .bad second => .bad (first ++ second)

def bind (x : Checked α) (f : α → Checked β) : Checked β :=
  match x with
  | .ok a => f a
  | .bad issues => .bad issues

def under (step : Step) : Checked α → Checked α
  | .ok a => .ok a
  | .bad issues => .bad (issues.map (Issue.under step))

def fail (problem : Problem) : Checked α := .bad [⟨problem, []⟩]

instance : Applicative Checked where
  pure := .ok
  map := map
  seq f x := seq f (x ())

def isOk : Checked α → Bool
  | .ok _ => true
  | .bad _ => false

def toExcept : Checked α → Except (List Issue) α
  | .ok a => .ok a
  | .bad issues => .error issues

end Checked

abbrev Reader (α : Type) := Value → Checked α

def any : Reader Value := .ok

def text : Reader String
  | .text s => .ok s
  | _ => .fail .notText

def lowered (s : String) : List Char := s.toList.map Char.toLower

def falseWords : List String := ["0", "off", "f", "false", "n", "no"]

def trueWords : List String := ["1", "on", "t", "true", "y", "yes"]

def isSmall (n : Int) : Bool := -9223372036854775808 ≤ n && n ≤ 9223372036854775807

def wholeOfFloat (x : Binary) : Checked Int :=
  if !x.isFinite then .fail .notFinite
  else match x.toInt? with
    | none => .fail .wholeWithFraction
    | some n =>
      if -9223372036854775808 < n && n < 9223372036854775808 then .ok n
      else .fail .wholeTooLarge

def flag : Reader Bool
  | .bool b => .ok b
  | .text s =>
    let word := String.ofList (lowered s)
    if falseWords.contains word then .ok false
    else if trueWords.contains word then .ok true
    else .fail .flagUnreadable
  | .int n =>
    if n = 0 then .ok false
    else if n = 1 then .ok true
    else if isSmall n then .fail .flagUnreadable
    else .fail .notFlag
  | .float x =>
    match wholeOfFloat x with
    | .ok n =>
      if n = 0 then .ok false else if n = 1 then .ok true else .fail .flagUnreadable
    | .bad _ => .fail .notFlag
  | _ => .fail .notFlag

/-- Digits behind zeros and underscores, from the first digit or minus sign on. The last character
passed over stays when nothing follows, or when a point does. -/
def afterZeros? (last : Char) : List Char → Option (List Char)
  | [] => some [last]
  | c :: rest =>
    if c = '0' || c = '_' then afterZeros? c rest
    else if c = '-' || isDigit c then some (c :: rest)
    else if c = '.' then some (last :: c :: rest)
    else none

/-- The text of an integer without zeros at the head of its digits; a minus sign stays in front. -/
def dropLeadingZeros? : List Char → Option (List Char)
  | '0' :: rest => afterZeros? '0' rest
  | '-' :: '0' :: rest => (afterZeros? '0' rest).map fun digits => '-' :: digits
  | c :: rest => if c = '-' || isDigit c then some (c :: rest) else none
  | [] => none

def dropEmptyFraction (s : List Char) : List Char :=
  let whole := s.takeWhile (· != '.')
  match s.drop whole.length with
  | '.' :: '0' :: places => if places.all (· == '0') then whole else s
  | _ => s

/-- Drop single underscores inside a text; one at an end or two in a row are refused. -/
def dropUnderscores? (s : List Char) : Option (List Char) :=
  let doubled := (s.zip (s.drop 1)).any fun (a, b) => a == '_' && b == '_'
  if s.head? == some '_' || s.getLast? == some '_' || doubled then none
  else some (s.filter (· != '_'))

/-- The plain text of an integer: without a plus sign, zeros at its head, a fraction of zeros and
underscores. -/
def plainWhole? (s : List Char) : Option (List Char) :=
  let body := match s with
    | '+' :: '-' :: _ => none
    | '+' :: rest => some rest
    | _ => some s
  (body.bind dropLeadingZeros?).map fun body =>
    let body := dropEmptyFraction body
    (dropUnderscores? body).getD body

/-- An integer from its plain text: perhaps a minus sign, then zero alone or digits that do not
start with zero. The sign counts to the length. -/
def wholeOfPlain (s : List Char) : Checked Int :=
  let (negative, digits) := match s with
    | '-' :: rest => (true, rest)
    | _ => (false, s)
  let run := digits.takeWhile isDigit
  if digits.head? = some '0' then
    if digits.length = 1 then .ok 0 else .fail .wholeUnreadable
  else if (if negative then 1 else 0) + run.length > integerDigits then .fail .wholeTooLarge
  else if run.isEmpty || run.length != digits.length then .fail .wholeUnreadable
  else .ok (if negative then -(digitsValue digits : Int) else digitsValue digits)

def wholeOfText (s : String) : Checked Int :=
  match plainWhole? (Text.trimBy Text.isSpace s.toList) with
  | some plain => wholeOfPlain plain
  | none => .fail .wholeUnreadable

def whole : Reader Int
  | .int n => .ok n
  | .bool b => .ok (if b then 1 else 0)
  | .float x => wholeOfFloat x
  | .text s => wholeOfText s
  | _ => .fail .notWhole

def wholeFrom (least : Int) : Reader Int := fun v =>
  (whole v).bind fun n => if n < least then .fail (.below least) else .ok n

def wholeBetween (least most : Int) : Reader Int := fun v =>
  (wholeFrom least v).bind fun n => if most < n then .fail (.above most) else .ok n

def decimal? (negative : Bool) (s : List Char) : Option Decimal :=
  let whole := s.takeWhile isDigit
  let rest := s.drop whole.length
  let (places, rest) := match rest with
    | '.' :: more => (more.takeWhile isDigit, more.dropWhile isDigit)
    | _ => ([], rest)
  if whole.isEmpty && places.isEmpty then none
  else
    let make (power : Int) : Option Decimal :=
      some ⟨negative, digitsValue (whole ++ places), power - places.length⟩
    match rest with
    | [] => make 0
    | mark :: rest =>
      if mark != 'e' && mark != 'E' then none
      else
        let (below, digits) := match rest with
          | '-' :: more => (true, more)
          | '+' :: more => (false, more)
          | _ => (false, rest)
        if digits.isEmpty || !digits.all isDigit then none
        else make (if below then -(digitsValue digits : Int) else digitsValue digits)

def numberOfPlain? (s : List Char) : Option Binary :=
  let (negative, body) := match s with
    | '-' :: rest => (true, rest)
    | '+' :: rest => (false, rest)
    | _ => (false, s)
  let word := String.ofList (body.map Char.toLower)
  if word = "inf" ∨ word = "infinity" then some (.infinite negative)
  else if word = "nan" then some .nan
  else (decimal? negative body).map Decimal.toBinary

def numberOfText? (s : String) : Option Binary :=
  (numberOfPlain? (Text.trimBy Text.isSpace s.toList)).or
    ((dropUnderscores? s.toList).bind numberOfPlain?)

def number : Reader Binary
  | .float x => .ok x
  | .int n =>
    match Binary.ofInt? n with
    | some x => .ok x
    | none => .fail .notNumber
  | .bool b => .ok (Binary.ofQuotient false (if b then 1 else 0) 1)
  | .text s =>
    match numberOfText? s with
    | some x => .ok x
    | none => .fail .numberUnreadable
  | _ => .fail .notNumber

def among {α : Type} (options : List (String × α)) : Reader α
  | .text s =>
    match options.lookup s with
    | some a => .ok a
    | none => .fail (.notAmong (options.map Prod.fst))
  | _ => .fail (.notAmong (options.map Prod.fst))

def object : Reader Fields
  | .object fields => .ok fields
  | _ => .fail .notObject

def readItems {α : Type} (item : Reader α) : Nat → List Value → Checked (List α)
  | _, [] => .ok []
  | k, v :: rest =>
    Checked.seq ((Checked.under (.index k) (item v)).map List.cons) (readItems item (k + 1) rest)

def list {α : Type} (item : Reader α) : Reader (List α)
  | .list items => readItems item 0 items
  | _ => .fail .notList

def optional {α : Type} (read : Reader α) : Reader (Option α)
  | .null => .ok none
  | v => (read v).map some

def scalar : Reader Value
  | .date _ => mismatch
  | .moment _ => mismatch
  | .clock _ => mismatch
  | .list _ => mismatch
  | .object _ => mismatch
  | v => .ok v
where
  /-- The issues of a value that is none of the four kinds. -/
  mismatch : Checked Value :=
    .bad [⟨.notText, [.key "str"]⟩, ⟨.notWhole, [.key "int"]⟩, ⟨.notNumber, [.key "float"]⟩,
      ⟨.notFlag, [.key "bool"]⟩]

structure Key where
  name : String
  underscored : String
  deriving DecidableEq, Repr

def Key.word (name : String) : Key := ⟨name, name⟩

def Key.find? (key : Key) (fields : Fields) : Option (String × Value) :=
  match fields.get? key.name with
  | some v => some (key.name, v)
  | none => (fields.get? key.underscored).map fun v => (key.underscored, v)

section Entries

variable {α : Type}

def required (fields : Fields) (key : Key) (read : Reader α) : Checked α :=
  match key.find? fields with
  | some (name, v) => (read v).under (.key name)
  | none => .bad [⟨.missing, [.key key.name]⟩]

def defaulted (fields : Fields) (key : Key) (default : α) (read : Reader α) : Checked α :=
  match key.find? fields with
  | some (name, v) => (read v).under (.key name)
  | none => .ok default

def maybe (fields : Fields) (key : Key) (read : Reader α) : Checked (Option α) :=
  defaulted fields key none (optional read)

def record (name : String) (read : Fields → Checked α) : Reader α
  | .object fields => read fields
  | _ => .fail (.notRecord name)

end Entries

def leftovers (keys : List Key) (fields : Fields) : Fields :=
  let taken := keys.filterMap fun key => (key.find? fields).map Prod.fst
  fields.filter fun entry => !taken.contains entry.1

end Dossier.Schema
