import Dossier.Number.Notation

/-!
# Numbers with a given number of digits

Three forms: with fixed places after the point, with an exponent, and the general form, which
takes the shorter look of the two and drops final zeros. Each digit text is cut from the exact
value, a half going to the even digit. A form writes a magnitude; the sign is left to the caller.
-/

set_option autoImplicit false

namespace Dossier.Number

namespace Places

/-- Digits with a point before the last so many; a point with nothing after it only if asked for. -/
def withPoint (places : Nat) (keepsPoint : Bool) (digits : List Char) : List Char :=
  let digits := padZeros (places + 1) digits
  let cut := digits.length - places
  let tail := digits.drop cut
  digits.take cut ++ if tail.isEmpty && !keepsPoint then [] else '.' :: tail

def fixed (places : Nat) (keepsPoint : Bool) (n d : Nat) : List Char :=
  withPoint places keepsPoint (natText (roundDiv (n * powerOfTen places) d))

def significant (count n d : Nat) : Nat × Int :=
  if n = 0 then (0, 0)
  else
    let e := log10Div n d
    let (a, b) := Decimal.gridQuotient n d (e - (count - 1 : Nat))
    let c := roundDiv a b
    if c = powerOfTen count then (powerOfTen (count - 1), e + 1) else (c, e)

def dropZeros (s : List Char) : List Char :=
  if s.contains '.' then
    let cut := (s.reverse.dropWhile (· == '0'))
    (if cut.head? = some '.' then cut.drop 1 else cut).reverse
  else s

def exponentText (e : Int) : List Char :=
  'e' :: (if e < 0 then '-' else '+') :: padZeros 2 (natText e.natAbs)

def scientific (places : Nat) (keepsPoint : Bool) (n d : Nat) : List Char :=
  let (c, e) := significant (places + 1) n d
  withPoint places keepsPoint (padZeros (places + 1) (natText c)) ++ exponentText e

/-- So many significant digits; an exponent is written below `1e-4` and where the digits do not
reach the point. Final zeros are kept only if asked for. -/
def general (count : Nat) (keepsZeros : Bool) (n d : Nat) : List Char :=
  let count := max 1 count
  let (c, e) := significant count n d
  let cut (s : List Char) : List Char := if keepsZeros then s else dropZeros s
  if -4 ≤ e ∧ e < count then cut (fixed (count - 1 - e).toNat keepsZeros n d)
  else cut (withPoint (count - 1) keepsZeros (padZeros count (natText c))) ++ exponentText e

end Places

def twoPlaces (x : Binary) : String :=
  match x with
  | .nan => Style.data.nan
  | .infinite negative => if negative then "-" ++ Style.data.infinity else Style.data.infinity
  | .finite negative m e =>
    let (n, d) := Binary.quotient m e
    let body := Places.fixed 2 false n d
    String.ofList (if negative then '-' :: body else body)

end Dossier.Number
