import Dossier.Calendar.Moment
import Dossier.Number.Notation
import Dossier.Text.Digit

/-!
# ISO 8601 texts of dates and moments

A date is written by month or by week, with or without hyphens; a time of day follows after one
separating character, with or without colons, and an offset after that. The first characters fix
the form of the date and so the place of the separator. The offset starts at the first `+`, `-`
or `Z`; one character of ASCII between the time and the offset is passed over.
-/

set_option autoImplicit false

namespace Dossier.Calendar.Iso

open Number Text

def digits? : Nat → List Char → Option (Nat × List Char) :=
  go 0
where
  go (value : Nat) : Nat → List Char → Option (Nat × List Char)
    | 0, rest => some (value, rest)
    | _ + 1, [] => none
    | count + 1, c :: rest =>
      if isDigit c then go (value * 10 + digitValue c) count rest else none

/-- Where the text of the date ends. In a week date without hyphens the number of digits in a row
tells whether a weekday is given, since the digits of a time come in pairs. -/
def separatorIndex? (s : List Char) : Option Nat :=
  let n := s.length
  if n = 7 then some 7
  else if s[4]? = some '-' then
    if s[5]? = some 'W' then
      if s[8]? = some '-' then
        if n = 9 then none
        else if (s[10]?).any isDigit then some 8
        else some 10
      else some 8
    else some 10
  else if s[4]? = some 'W' then
    let run := 7 + ((s.drop 7).takeWhile isDigit).length
    if run < 9 then some run
    else if run % 2 = 0 then some 7
    else some 8
  else some 8

def hyphen? (inUse : Bool) (s : List Char) : Option (List Char) :=
  if inUse then
    match s with
    | '-' :: rest => some rest
    | _ => none
  else some s

def date? (s : List Char) : Option Date := do
  let (year, rest) ← digits? 4 s
  let hyphens := rest.head? == some '-'
  let rest := if hyphens then rest.drop 1 else rest
  match rest with
  | 'W' :: rest =>
    let (week, rest) ← digits? 2 rest
    if rest.isEmpty then Date.ofWeek? year week 1
    else
      let rest ← hyphen? hyphens rest
      let (day, _) ← digits? 1 rest
      Date.ofWeek? year week day
  | _ =>
    let (month, rest) ← digits? 2 rest
    let rest ← hyphen? hyphens rest
    let (day, _) ← digits? 2 rest
    Date.of? year month day

/-- The end of a text; a null character also ends it. -/
def isEnd : List Char → Bool
  | [] => true
  | c :: _ => c == '\x00'

structure Fields where
  hour : Nat
  minute : Nat
  second : Nat
  micro : Nat
  leftover : Bool

def fraction? (hour minute second : Nat) (s : List Char) : Option Fields := do
  let width := min 6 s.length
  let (value, rest) ← digits? width s
  let rest := rest.dropWhile isDigit
  some ⟨hour, minute, second, value * powerOfTen (6 - width), !isEnd rest⟩

/-- What follows a field of two digits: the end, one character of ASCII too many, a fraction, or the
text of the next field. -/
inductive Next where
  | done (leftover : Bool)
  | fraction (rest : List Char)
  | field (rest : List Char)

def next? (colons : Bool) : List Char → Option Next
  | [] => some (.done false)
  | [c] => if c.toNat < 0x80 then some (.done (!isEnd [c])) else none
  | c :: rest =>
    if colons && c == ':' then some (.field rest)
    else if c == '.' || c == ',' then some (.fraction rest)
    else if colons then none
    else some (.field (c :: rest))

/-- Hours, then perhaps minutes, seconds and a fraction. Colons are in use when one follows the
hours. -/
def fields? (s : List Char) : Option Fields := do
  let (hour, rest) ← digits? 2 s
  let colons := rest.head? == some ':'
  match ← next? colons rest with
  | .done leftover => some ⟨hour, 0, 0, 0, leftover⟩
  | .fraction rest => fraction? hour 0 0 rest
  | .field rest =>
    let (minute, rest) ← digits? 2 rest
    match ← next? colons rest with
    | .done leftover => some ⟨hour, minute, 0, 0, leftover⟩
    | .fraction rest => fraction? hour minute 0 rest
    | .field rest =>
      let (second, rest) ← digits? 2 rest
      match ← next? colons rest with
      | .done leftover => some ⟨hour, minute, second, 0, leftover⟩
      | .fraction rest => fraction? hour minute second rest
      | .field rest => fraction? hour minute second rest

/-- An offset in microseconds; it is less than a day either way, and one below a second is none. -/
def offset? (west : Bool) (s : List Char) : Option Int := do
  let f ← fields? s
  let seconds : Nat := (f.hour * 60 + f.minute) * 60 + f.second
  let size : Nat := if seconds = 0 then 0 else seconds * microsPerSecond + f.micro
  if f.leftover || microsPerDay ≤ size then none
  else some (if west then -(size : Int) else size)

def startsOffset (c : Char) : Bool := c == '+' || c == '-' || c == 'Z'

def time? (s : List Char) : Option (Clock × Option Int) := do
  let body := s.takeWhile (!startsOffset ·)
  let f ← fields? body
  let offset ← match s.drop body.length with
    | [] => if f.leftover then none else some none
    | 'Z' :: rest => if isEnd rest then some (some 0) else none
    | sign :: rest => (offset? (sign == '-') rest).map some
  let clock ← Clock.of? f.hour f.minute f.second f.micro
  some (clock, offset)

/-- The moment that a text names; a date alone is its midnight. -/
def moment? (s : List Char) : Option Moment := do
  let index ← if s.length < 7 then none else separatorIndex? s
  let date ← date? (s.take index)
  match s.drop index with
  | [] => some ⟨date, .midnight, none⟩
  | _ :: rest =>
    let (clock, offset) ← time? rest
    some ⟨date, clock, offset⟩

def padded (width n : Nat) : List Char := padZeros width (natText n)

def dateChars (d : Date) : List Char :=
  padded 4 d.year ++ '-' :: padded 2 d.month ++ '-' :: padded 2 d.day

/-- Hours, minutes and seconds; microseconds only when there are any. -/
def clockChars (t : Clock) : List Char :=
  padded 2 t.hour ++ ':' :: padded 2 t.minute ++ ':' :: padded 2 t.second ++
    if t.micro = 0 then [] else '.' :: padded 6 t.micro

/-- An offset; seconds and microseconds only when there are any. -/
def offsetChars (micros : Int) : List Char :=
  let size := micros.natAbs
  let t := Clock.ofMicros size
  let seconds := if t.second = 0 ∧ t.micro = 0 then [] else ':' :: padded 2 t.second
  let fraction := if t.micro = 0 then [] else '.' :: padded 6 t.micro
  (if micros < 0 then '-' else '+') :: padded 2 t.hour ++ ':' :: padded 2 t.minute ++
    seconds ++ fraction

def momentChars (separator : Char) (m : Moment) : List Char :=
  dateChars m.date ++ separator :: clockChars m.clock ++
    match m.offset with
    | none => []
    | some offset => offsetChars offset

end Dossier.Calendar.Iso
