/-!
# Rounding a quotient

Division of natural numbers to the nearest whole number, a half going to the even neighbour.
Reading a decimal, rounding to binary and cutting to fixed places are all this one step on
different grids. The result lies within half a unit of the quotient.
-/

set_option autoImplicit false

namespace Dossier.Number

/-- The whole number nearest to `n / d`; of two equally near ones, the even one. -/
def roundDiv (n d : Nat) : Nat :=
  let q := n / d
  let r := n % d
  if 2 * r < d then q
  else if d < 2 * r then q + 1
  else q + q % 2

/-- Twice the error of the rounding is at most one divisor. -/
theorem roundDiv_near (n d : Nat) (hd : 0 < d) :
    2 * n ≤ 2 * (d * roundDiv n d) + d ∧ 2 * (d * roundDiv n d) ≤ 2 * n + d := by
  have hn := Nat.div_add_mod n d
  have hr := Nat.mod_lt n hd
  have hs : d * (n / d + 1) = d * (n / d) + d := Nat.mul_succ d (n / d)
  simp only [roundDiv]
  split
  · omega
  · split
    · omega
    · have h2 : 2 * (n % d) = d := by omega
      rcases Nat.mod_two_eq_zero_or_one (n / d) with h | h <;> rw [h]
      · simp only [Nat.add_zero]; omega
      · omega

/-- A whole quotient is left as it is. -/
theorem roundDiv_mul_right (q d : Nat) (hd : 0 < d) : roundDiv (q * d) d = q := by
  simp [roundDiv, Nat.mul_div_cancel _ hd, hd]

def powerOfTwo (k : Nat) : Nat := Nat.pow 2 k

def powerOfTen (k : Nat) : Nat := Nat.pow 10 k

/-- The number of decimal digits of `n`; zero has one. -/
def digitCount (n : Nat) : Nat := (Nat.toDigits 10 n).length

def log2Div (n d : Nat) : Int :=
  let k : Int := (n.log2 : Int) - d.log2
  let below := if 0 ≤ k then n < d * powerOfTwo k.toNat else n * powerOfTwo (-k).toNat < d
  if below then k - 1 else k

def log10Div (n d : Nat) : Int :=
  let k : Int := (digitCount n : Int) - digitCount d
  let below := if 0 ≤ k then n < d * powerOfTen k.toNat else n * powerOfTen (-k).toNat < d
  if below then k - 1 else k

end Dossier.Number
