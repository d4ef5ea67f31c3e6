/-!
Binary numbers of 53 significant digits. A decimal number that is not a whole one is read as one
of these, each step rounding to the nearest: first the digits, then the power of ten, then their
product or quotient.
-/

namespace PermissionScreen.Decimal

/-- The magnitude `mantissa * 2 ^ exponent`; a sign stands beside it, so that zero has one too. -/
structure Binary where
  negative : Bool
  mantissa : Nat
  exponent : Int
  deriving DecidableEq, Repr

namespace Binary

/-- The least exponent. -/
def minExponent : Int := -1074

/-- The greatest exponent; a number that needs more is out of range. -/
def maxExponent : Int := 971

/-- The whole number nearest to a quotient. Half way between two, the even one is taken. -/
def roundQuotient (numerator denominator : Nat) : Nat :=
  let whole := numerator / denominator
  let rest := 2 * (numerator % denominator)
  if rest < denominator then whole
  else if denominator < rest then whole + 1
  else whole + whole % 2

/-- The quotient `numerator / denominator` in units of `2 ^ exponent`, rounded. -/
def roundAt (numerator denominator : Nat) (exponent : Int) : Nat :=
  roundQuotient (numerator <<< (-exponent).toNat) (denominator <<< exponent.toNat)

/-- The nearest magnitude to a quotient of two numbers, as mantissa and exponent; `none` if it is
out of range. -/
def ofQuotient? (numerator denominator : Nat) : Option (Nat × Int) :=
  if numerator = 0 then some (0, minExponent)
  else
    let estimate := max minExponent ((numerator.log2 : Int) - denominator.log2 - 53)
    let exponent :=
      if roundAt numerator denominator estimate < 1 <<< 53 then estimate else estimate + 1
    let mantissa := roundAt numerator denominator exponent
    let result := if mantissa = 1 <<< 53 then (1 <<< 52, exponent + 1) else (mantissa, exponent)
    if result.2 ≤ maxExponent then some result else none

/-- The product of two magnitudes over a third, rounded once. -/
def scale? (left right divisor : Nat × Int) : Option (Nat × Int) :=
  let exponent := left.2 + right.2 - divisor.2
  ofQuotient? ((left.1 * right.1) <<< exponent.toNat) (divisor.1 <<< (-exponent).toNat)

/-- The greatest power of ten that is in range. -/
def maxPower : Nat := 308

def one : Nat × Int := (1 <<< 52, -52)

/-- A power of ten, rounded. -/
def powerOfTen (n : Nat) : Nat × Int := (ofQuotient? (Nat.pow 10 n) 1).getD one

/-- Divides by `10 ^ n`, in steps of the greatest power of ten. -/
def shrink (magnitude : Nat × Int) (n : Nat) : Nat × Int :=
  if n ≤ maxPower then (scale? magnitude one (powerOfTen n)).getD magnitude
  else if magnitude.1 = 0 then magnitude
  else shrink ((scale? magnitude one (powerOfTen maxPower)).getD magnitude) (n - maxPower)
termination_by n
decreasing_by simp only [maxPower] at *; omega

/-- The number `digits * 10 ^ exponent`; `none` if it is out of range. -/
def ofDigits? (negative : Bool) (digits : Nat) (exponent : Int) : Option Binary := do
  let start ← ofQuotient? digits 1
  let (mantissa, exponent) ←
    if exponent < 0 then some (shrink start exponent.natAbs)
    else if exponent.toNat ≤ maxPower then scale? start (powerOfTen exponent.toNat) one
    else if start.1 = 0 then some start
    else none
  return ⟨negative, mantissa, exponent⟩

end Binary
end PermissionScreen.Decimal
