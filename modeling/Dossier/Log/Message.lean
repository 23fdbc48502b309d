import Dossier.Value.Display
import Dossier.Number.Places
import Dossier.Log.Directive

/-!
# Log messages with arguments

A template with directives is filled from arguments: in order, or by name when the only argument
is an object. A directive with a name takes its value from the object; one without a name takes
the next argument, and its width and precision may be arguments as well.
-/

set_option autoImplicit false

namespace Dossier.Log

open Number

inductive Mismatch where
  | wrongArguments
  | wrongTemplate
  | unknownName
  | tooLarge
  | timeOutOfRange
  | timeBeyondCalendar
  deriving DecidableEq, Repr

structure Body where
  sign : List Char
  mark : List Char
  digits : List Char
  /-- Whether zeros may stand between mark and body. -/
  takesZeros : Bool

def cut (v : Value) : Except Mismatch Int :=
  match v with
  | .int n => .ok n
  | .bool b => .ok (if b then 1 else 0)
  | .float .nan => .error .wrongTemplate
  | .float (.infinite _) => .error .tooLarge
  | .float x =>
    match x.toRat? with
    | some q => .ok (Int.tdiv q.num q.den)
    | none => .error .wrongTemplate
  | _ => .error .wrongArguments

def whole (v : Value) : Except Mismatch Int :=
  match v with
  | .float _ => .error .wrongArguments
  | v => cut v

def binary (v : Value) : Except Mismatch Binary :=
  match v with
  | .int n =>
    match Binary.ofInt? n with
    | some x => .ok x
    | none => .error .tooLarge
  | .bool b => .ok (.ofQuotient false (if b then 1 else 0) 1)
  | .float x => .ok x
  | _ => .error .wrongArguments

def signOf (d : Directive) (negative : Bool) : List Char :=
  if negative then ['-'] else if d.plus then ['+'] else if d.blank then [' '] else []

def greatestSize : Nat := 2147483647

def greatestWidth : Nat := 9223372036854775807

/-- A whole number in a base, with at least as many digits as the precision says; a number needs
some room besides its digits. -/
def wholeBody (d : Directive) (base : Nat) (mark : List Char) (n : Int) : Except Mismatch Body :=
  let digits := d.precision.getD 0
  if digits > greatestSize - 3 then .error .wrongTemplate
  else .ok ⟨signOf d (n < 0), mark, padZeros digits (Nat.toDigits base n.natAbs), true⟩

def magnitude (d : Directive) (form : Char) : Binary → List Char
  | .nan => "nan".toList
  | .infinite _ => "inf".toList
  | .finite _ m e =>
    let (n, q) := Binary.quotient m e
    let places := d.precision.getD 6
    if form = 'f' then Places.fixed places d.alternate n q
    else if form = 'e' then Places.scientific places d.alternate n q
    else Places.general places d.alternate n q

def upper (s : List Char) : List Char := s.map Char.toUpper

def textBody (d : Directive) (s : String) : Body :=
  let chars := s.toList
  ⟨[], [], match d.precision with
    | some k => chars.take k
    | none => chars, false⟩

def characterBody (v : Value) : Except Mismatch Body :=
  match v with
  | .text s => if s.length = 1 then .ok ⟨[], [], s.toList, false⟩ else .error .wrongArguments
  | v =>
    match whole v with
    | .error e => .error e
    | .ok n =>
      if 0 ≤ n ∧ n < 0x110000 then .ok ⟨[], [], [Char.ofNat n.toNat], false⟩ else .error .tooLarge

def body (d : Directive) (form : Char) (v : Value) : Except Mismatch Body :=
  let number (x : Except Mismatch Int) (base : Nat) (mark : List Char) : Except Mismatch Body :=
    x.bind (wholeBody d base (if d.alternate then mark else []))
  match form with
  | 's' => .ok (textBody d v.display)
  | 'r' => .ok (textBody d v.displayInside)
  | 'a' => .ok (textBody d (Text.escapeBeyondAscii v.displayInside))
  | 'd' => number (cut v) 10 []
  | 'i' => number (cut v) 10 []
  | 'u' => number (cut v) 10 []
  | 'o' => number (whole v) 8 ['0', 'o']
  | 'x' => number (whole v) 16 ['0', 'x']
  | 'X' => (number (whole v) 16 ['0', 'X']).map fun b => { b with digits := upper b.digits }
  | 'c' => characterBody v
  | _ =>
    let small := form.toLower
    if small = 'e' || small = 'f' || small = 'g' then
      (binary v).map fun x =>
        let digits := magnitude d small x
        ⟨signOf d x.isNegative, [], if form = small then digits else upper digits, true⟩
    else .error .wrongTemplate

def layOut (d : Directive) (b : Body) : List Char :=
  let used := b.sign.length + b.mark.length + b.digits.length
  let room := d.width - used
  if d.left then b.sign ++ b.mark ++ b.digits ++ List.replicate room ' '
  else if d.zeros && b.takesZeros then
    b.sign ++ b.mark ++ List.replicate room '0' ++ b.digits
  else List.replicate room ' ' ++ b.sign ++ b.mark ++ b.digits

/-- Where values come from: arguments in order, or one object. After a name the value of that name
is the only argument left. -/
structure Supply where
  args : List Value
  named : Option Fields

def Supply.take (s : Supply) : Except Mismatch (Value × Supply) :=
  match s.args with
  | v :: rest => .ok (v, { s with args := rest })
  | [] => .error .wrongArguments

def Supply.takeSize (s : Supply) : Except Mismatch (Int × Supply) :=
  match s.take with
  | .ok (.int n, s) => if n.natAbs ≤ greatestSize then .ok (n, s) else .error .tooLarge
  | .ok (.bool b, s) => .ok (if b then 1 else 0, s)
  | .ok _ => .error .wrongArguments
  | .error e => .error e

def Supply.turn (s : Supply) : Option String → Except Mismatch Supply
  | none => .ok s
  | some name =>
    match s.named with
    | none => .error .wrongArguments
    | some fields =>
      match fields.get? name with
      | some v => .ok { s with args := [v] }
      | none => .error .unknownName

/-- Fill in a width that is an argument; a negative one puts the body to the left. -/
def fixWidth (d : Directive) (s : Supply) : Except Mismatch (Directive × Supply) :=
  if d.widthGiven then
    s.takeSize.map fun (n, s) => ({ d with width := n.natAbs, left := d.left || n < 0 }, s)
  else .ok (d, s)

def fixPrecision (d : Directive) (s : Supply) : Except Mismatch (Directive × Supply) :=
  if d.precisionGiven then s.takeSize.map fun (n, s) => ({ d with precision := some n.toNat }, s)
  else .ok (d, s)

def checkSize (size limit : Nat) : Except Mismatch Unit :=
  if size > limit then .error .wrongTemplate else .ok ()

def fillOne (d : Directive) (s : Supply) : Except Mismatch (List Char × Supply) := do
  let s ← s.turn d.name
  let (d, s) ← fixWidth d s
  checkSize d.width greatestWidth
  let (d, s) ← fixPrecision d s
  checkSize (d.precision.getD 0) greatestSize
  match d.form with
  | none => .error .wrongTemplate
  | some form =>
    let (v, s) ← s.take
    let b ← body d form v
    pure (layOut d b, s)

def fill : List Piece → Supply → Except Mismatch (List Char)
  | [], s => if s.named.isNone && !s.args.isEmpty then .error .wrongArguments else .ok []
  | .char c :: rest, s => (fill rest s).map (c :: ·)
  | .unclosed :: _, s => .error (if s.named.isNone then .wrongArguments else .wrongTemplate)
  | .directive d :: rest, s =>
    match fillOne d s with
    | .error e => .error e
    | .ok (text, s) => (fill rest s).map (text ++ ·)

def supply : List Value → Supply
  | [.object (entry :: fields)] => ⟨[.object (entry :: fields)], some (entry :: fields)⟩
  | args => ⟨args, none⟩

/-- A message with its arguments; without arguments the template stands as it is. -/
def message (template : String) (args : List Value) : Except Mismatch String :=
  if args.isEmpty then .ok template
  else (fill (Piece.ofChars template.toList) (supply args)).map String.ofList

end Dossier.Log
