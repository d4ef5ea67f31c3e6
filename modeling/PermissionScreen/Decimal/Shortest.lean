import PermissionScreen.Decimal.Binary

/-!
The shortest decimal text of a binary number: the fewest digits that lie nearer to it than to any
other number, and of those the nearest. From ten to the minus fifth to just below ten to the
sixteenth it is written out with a point; outside that range it has an exponent.
-/

namespace PermissionScreen.Decimal

/-- The number `digits * 10 ^ exponent`. -/
structure Scaled where
  digits : Nat
  exponent : Int
  deriving DecidableEq, Repr

namespace Binary

/-- The ends of the interval that rounds to a number, and the number itself, in quarters of its
last binary digit. Below a power of two the neighbour is twice as near. -/
def quarters (x : Binary) : Nat × Nat × Nat :=
  let below := if x.mantissa = 1 <<< 52 ∧ minExponent < x.exponent then 1 else 2
  (4 * x.mantissa - below, 4 * x.mantissa, 4 * x.mantissa + 2)

/-- The multiples of `10 ^ exponent` beside a number that read back as it, the nearer one first. -/
def candidates (x : Binary) (exponent : Int) : List Nat :=
  let (low, middle, high) := x.quarters
  let unit := Nat.pow 10 (-exponent).toNat <<< (x.exponent - 2).toNat
  let grid := Nat.pow 10 exponent.toNat <<< (2 - x.exponent).toNat
  let below := middle * unit / grid
  let admits := fun candidate : Nat =>
    if x.mantissa % 2 = 0 then low * unit ≤ candidate * grid ∧ candidate * grid ≤ high * unit
    else low * unit < candidate * grid ∧ candidate * grid < high * unit
  let order :=
    if 2 * (middle * unit - below * grid) < grid ∨
        2 * (middle * unit - below * grid) = grid ∧ below % 2 = 0
      then [below, below + 1] else [below + 1, below]
  order.filter admits

/-- How many decimal digits a number has. -/
def decimalLength (n : Nat) : Nat := (Nat.toDigits 10 n).length

/-- An exponent above that of the leading decimal digit. -/
def exponentAbove (x : Binary) : Int :=
  decimalLength (x.mantissa <<< x.exponent.toNat) - decimalLength (1 <<< (-x.exponent).toNat) + 1

/-- The first grid, from coarse to fine, that holds a number which reads back as `x`. -/
def firstHit (x : Binary) (exponent : Int) : Nat → Scaled
  | 0 => ⟨0, exponent⟩
  | steps + 1 =>
      match x.candidates exponent with
      | digits :: _ => if digits = 0 then firstHit x (exponent - 1) steps else ⟨digits, exponent⟩
      | [] => firstHit x (exponent - 1) steps

end Binary

/-- Takes out factors of ten from the digits. -/
def Scaled.strip (x : Scaled) : Scaled :=
  if h : x.digits ≠ 0 ∧ x.digits % 10 = 0 then
    Scaled.strip ⟨x.digits / 10, x.exponent + 1⟩
  else x
termination_by x.digits
decreasing_by omega

/-- The shortest decimal number that reads back as `x`. -/
def Binary.shortest (x : Binary) : Scaled :=
  if x.mantissa = 0 then ⟨0, 0⟩ else (x.firstHit x.exponentAbove 20).strip

/-- How a decimal number is written: with a point if its leading digit is worth at least `10 ^ low`
and at most `10 ^ high`, otherwise with an exponent. -/
structure Layout where
  low : Int
  high : Int

/-- The layout in which error messages show a number. -/
def Layout.message : Layout := ⟨-5, 15⟩

def zeros (n : Nat) : String := String.ofList (List.replicate n '0')

/-- An exponent always has a sign. -/
def exponentText (exponent : Int) : String :=
  (if exponent < 0 then "e-" else "e+") ++ toString exponent.natAbs

/-- The text of a number without its sign. A whole number ends in `.0`. -/
def Layout.text (layout : Layout) (x : Scaled) : String :=
  let digits := toString x.digits
  let point : Int := digits.length + x.exponent
  if x.digits = 0 then "0.0"
  else if layout.low ≤ point - 1 ∧ point - 1 ≤ layout.high then
    if 0 ≤ x.exponent then digits ++ zeros x.exponent.toNat ++ ".0"
    else if 0 < point then
      String.ofList (digits.toList.take point.toNat) ++ "." ++
        String.ofList (digits.toList.drop point.toNat)
    else "0." ++ zeros (-point).toNat ++ digits
  else
    String.ofList (digits.toList.take 1) ++
      (if digits.length = 1 then "" else "." ++ String.ofList (digits.toList.drop 1)) ++
      exponentText (point - 1)

/-- The text of a number, as error messages show it. -/
def Binary.text (x : Binary) : String :=
  (if x.negative then "-" else "") ++ Layout.message.text x.shortest

end PermissionScreen.Decimal
