import Dossier.Number.Rounding

/-!
# Binary floating point

Numbers with a significand of 53 bits and an exponent from -1074 to 971, two infinities and a
not-a-number. A finite number stands for an exact rational, and every operation is the exact
rational operation followed by one rounding to the nearest number, ties to the even significand.
-/

set_option autoImplicit false

namespace Dossier.Number

/-- A finite number is `significand * 2 ^ exponent` with its sign; the sign of zero is kept. -/
inductive Binary where
  | nan
  | infinite (negative : Bool)
  | finite (negative : Bool) (significand : Nat) (exponent : Int)
  deriving DecidableEq, Repr, Inhabited

namespace Binary

def leastExponent : Int := -1074

def greatestExponent : Int := 971

def Canonical : Binary → Prop
  | .nan => True
  | .infinite _ => True
  | .finite _ m e =>
    m < powerOfTwo 53 ∧ leastExponent ≤ e ∧ e ≤ greatestExponent ∧
      (powerOfTwo 52 ≤ m ∨ e = leastExponent)

def zero : Binary := .finite false 0 leastExponent

/-- The number nearest to `n / d` with the given sign; too large a quotient is infinite. -/
def ofQuotient (negative : Bool) (n d : Nat) : Binary :=
  if n = 0 then .finite negative 0 leastExponent
  else
    let e := max leastExponent (log2Div n d - 52)
    let m :=
      if 0 ≤ e then roundDiv n (d * powerOfTwo e.toNat)
      else roundDiv (n * powerOfTwo (-e).toNat) d
    let (m, e) := if powerOfTwo 53 ≤ m then (m / 2, e + 1) else (m, e)
    if greatestExponent < e then .infinite negative else .finite negative m e

def ofRat (q : Rat) : Binary := ofQuotient (decide (q < 0)) q.num.natAbs q.den

def ofInt? (n : Int) : Option Binary :=
  match ofQuotient (decide (n < 0)) n.natAbs 1 with
  | .infinite _ => none
  | x => some x

def quotient (significand : Nat) (exponent : Int) : Nat × Nat :=
  if 0 ≤ exponent then (significand * powerOfTwo exponent.toNat, 1)
  else (significand, powerOfTwo (-exponent).toNat)

def toRat? : Binary → Option Rat
  | .finite negative m e =>
    let (n, d) := quotient m e
    let q : Rat := mkRat n d
    some (if negative then -q else q)
  | _ => none

def isNegative : Binary → Bool
  | .nan => false
  | .infinite s => s
  | .finite s _ _ => s

def isFinite : Binary → Bool
  | .finite .. => true
  | _ => false

def isZero : Binary → Bool
  | .finite _ 0 _ => true
  | _ => false

def toInt? (x : Binary) : Option Int :=
  match x.toRat? with
  | some q => if q.den = 1 then some q.num else none
  | none => none

/-- The order of two numbers, infinities outermost; a not-a-number has no place in it. -/
def compare? : Binary → Binary → Option Ordering
  | .nan, _ => none
  | _, .nan => none
  | .infinite s, .infinite t => some (compare (!s) (!t))
  | .infinite s, .finite .. => some (if s then .lt else .gt)
  | .finite .., .infinite t => some (if t then .gt else .lt)
  | .finite s m e, .finite t n f =>
    match (Binary.finite s m e).toRat?, (Binary.finite t n f).toRat? with
    | some p, some q => some (if p < q then .lt else if q < p then .gt else .eq)
    | _, _ => none

def compareInt? (n : Int) : Binary → Option Ordering
  | .nan => none
  | .infinite t => some (if t then .gt else .lt)
  | .finite t m f =>
    match (Binary.finite t m f).toRat? with
    | some q => some (if (n : Rat) < q then .lt else if q < (n : Rat) then .gt else .eq)
    | none => none

/-- Zero has exponent -1074, so it is canonical. -/
theorem zero_canonical : zero.Canonical :=
  ⟨by decide, by decide, by decide, .inr rfl⟩

end Binary

end Dossier.Number
