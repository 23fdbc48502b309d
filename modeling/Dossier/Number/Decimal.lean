import Dossier.Number.Binary

/-!
# Decimal digits of a binary number

A decimal is a coefficient and a power of ten. Reading one rounds it to the nearest binary number.
The digits written for a number are the shortest that read back as that number: on the grids of
one, two, and so on up to seventeen digits, the first grid with a neighbour that reads back wins,
of two neighbours the nearer, and of two equally near the one with an even last digit.
-/

set_option autoImplicit false

namespace Dossier.Number

structure Decimal where
  negative : Bool
  coefficient : Nat
  exponent : Int
  deriving DecidableEq, Repr, Inhabited

namespace Decimal

/-- The binary number nearest to a decimal. An exponent far outside the range decides alone,
so no power of ten is computed for it. -/
def toBinary (x : Decimal) : Binary :=
  let leading : Int := x.exponent + digitCount x.coefficient
  if x.coefficient = 0 then .finite x.negative 0 Binary.leastExponent
  else if 400 < leading then .infinite x.negative
  else if leading < -400 then .finite x.negative 0 Binary.leastExponent
  else if 0 ≤ x.exponent then
    Binary.ofQuotient x.negative (x.coefficient * powerOfTen x.exponent.toNat) 1
  else Binary.ofQuotient x.negative x.coefficient (powerOfTen (-x.exponent).toNat)

def toRat (x : Decimal) : Rat :=
  let q : Rat :=
    if 0 ≤ x.exponent then (x.coefficient * powerOfTen x.exponent.toNat : Nat)
    else mkRat x.coefficient (powerOfTen (-x.exponent).toNat)
  if x.negative then -q else q

/-- Drop one final zero after another; the fuel is the number of digits. -/
def trimZeros : Nat → Nat → Int → Nat × Int
  | 0, c, e => (c, e)
  | fuel + 1, c, e => if c ≠ 0 ∧ c % 10 = 0 then trimZeros fuel (c / 10) (e + 1) else (c, e)

/-- Of the neighbours `lo` and `lo + 1` on a grid of decimals, the one to write for `x`: it must
read back as `x`. The quotient in units of the grid is `n / d`. -/
def onGrid? (x : Binary) (exponent : Int) (n d : Nat) : Option Decimal :=
  let lo := n / d
  let r := n % d
  let reads (c : Nat) : Bool := decide (toBinary ⟨x.isNegative, c, exponent⟩ = x)
  let low := reads lo
  let high := reads (lo + 1)
  let pick (c : Nat) : Option Decimal := some ⟨x.isNegative, c, exponent⟩
  if r = 0 ∧ low then pick lo
  else if low && high then
    if 2 * r < d then pick lo
    else if d < 2 * r then pick (lo + 1)
    else pick (lo + lo % 2)
  else if low then pick lo
  else if high then pick (lo + 1)
  else none

def gridQuotient (n d : Nat) (exponent : Int) : Nat × Nat :=
  if 0 ≤ exponent then (n, d * powerOfTen exponent.toNat)
  else (n * powerOfTen (-exponent).toNat, d)

/-- The shortest decimal that reads back as `significand * 2 ^ exponent`, without final zeros.
Seventeen digits always read back, so the last grid is the widest one needed. -/
def shortest (negative : Bool) (significand : Nat) (exponent : Int) : Decimal :=
  if significand = 0 then ⟨negative, 0, 0⟩
  else
    let x := Binary.finite negative significand exponent
    let (n, d) := Binary.quotient significand exponent
    let top := log10Div n d
    let hit := (List.range 17).findSome? fun (k : Nat) =>
      let unit : Int := top - k
      let (n, d) := gridQuotient n d unit
      onGrid? x unit n d
    let widest :=
      let (n, d) := gridQuotient n d (top - 16)
      ⟨negative, roundDiv n d, top - 16⟩
    let found := hit.getD widest
    let (c, f) := trimZeros (digitCount found.coefficient) found.coefficient found.exponent
    ⟨negative, c, f⟩

def digits (x : Decimal) : List Char := Nat.toDigits 10 x.coefficient

def point (x : Decimal) : Int := x.exponent + digitCount x.coefficient

end Decimal

end Dossier.Number
