import Dossier.Number.Decimal

/-!
# Written numbers

How the shortest digits of a number are laid out: which numbers are written positionally, whether
a whole number keeps a fraction, and how an exponent looks. A `Style` holds those decisions.
Two styles are in use, one for data and one for text shown to a reader.
-/

set_option autoImplicit false

namespace Dossier.Number

/-- The decisions of a written form. `least` and `most` bound the number of digits before the
point for which no exponent is written. -/
structure Style where
  least : Int
  most : Int
  keepsFraction : Bool
  exponentDigits : Nat
  nan : String
  infinity : String

def Style.data : Style := ⟨-3, 16, true, 2, "nan", "inf"⟩

def Style.json : Style := { Style.data with nan := "NaN", infinity := "Infinity" }

def Style.shown : Style := ⟨-5, 21, false, 1, "NaN", "Infinity"⟩

def padZeros (width : Nat) (digits : List Char) : List Char :=
  List.replicate (width - digits.length) '0' ++ digits

def natText (n : Nat) : List Char := Nat.toDigits 10 n

def intText (n : Int) : String :=
  String.ofList (if n < 0 then '-' :: natText n.natAbs else natText n.natAbs)

def positional (style : Style) (digits : List Char) (point : Int) : List Char :=
  let count : Int := digits.length
  let fraction := if style.keepsFraction then ['.', '0'] else []
  if count ≤ point then digits ++ List.replicate (point - count).toNat '0' ++ fraction
  else if 0 < point then digits.take point.toNat ++ '.' :: digits.drop point.toNat
  else '0' :: '.' :: (List.replicate (-point).toNat '0' ++ digits)

def scientific (style : Style) (digits : List Char) (point : Int) : List Char :=
  let mantissa := match digits with
    | [] => []
    | [c] => [c]
    | c :: rest => c :: '.' :: rest
  let exponent := point - 1
  let sign := if exponent < 0 then '-' else '+'
  mantissa ++ 'e' :: sign :: padZeros style.exponentDigits (natText exponent.natAbs)

def Style.magnitude (style : Style) (x : Decimal) : List Char :=
  if style.least ≤ x.point ∧ x.point ≤ style.most then positional style x.digits x.point
  else scientific style x.digits x.point

def Style.write (style : Style) : Binary → String
  | .nan => style.nan
  | .infinite negative => if negative then "-" ++ style.infinity else style.infinity
  | .finite negative m e =>
    let body := style.magnitude (Decimal.shortest negative m e)
    String.ofList (if negative then '-' :: body else body)

def exponentThreshold : Nat := powerOfTen 21

/-- A number as a reader sees it. A whole number below the threshold is written out exactly. -/
def showBinary (x : Binary) : String :=
  match x.toInt? with
  | some n => if n.natAbs < exponentThreshold then intText n else Style.shown.write x
  | none => Style.shown.write x

/-- An integer as a reader sees it; from the threshold on it is rounded to a binary number, and
one that rounds to no finite number has no text. -/
def showInt? (n : Int) : Option String :=
  if n.natAbs < exponentThreshold then some (intText n) else (Binary.ofInt? n).map showBinary

end Dossier.Number
