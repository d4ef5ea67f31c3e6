import PermissionScreen.Json.Tree

/-!
Numbers as they are written in JSON: a sign, digits without a leading zero, and perhaps a fraction
and an exponent. At most 64 bits of digits count: of the digits before the point those that do not
fit raise the exponent, and of those behind it they are dropped.
-/

namespace PermissionScreen.Json

open PermissionScreen.Decimal (Binary)

def digitValue (c : Char) : Nat := c.toNat - '0'.toNat

/-- The first number that 64 bits do not hold. -/
def digitLimit : Nat := UInt64.size

/-- Digits that have been taken in, the power of ten that goes with them, and whether they are all
that 64 bits hold. -/
structure Digits where
  value : Nat
  exponent : Int
  full : Bool
  deriving DecidableEq, Repr

namespace Digits

/-- Takes in a digit in front of the point. -/
def takeWhole (digits : Digits) (c : Char) : Digits :=
  if digits.full then { digits with exponent := digits.exponent + 1 }
  else if digits.value * 10 + digitValue c < digitLimit then
    { digits with value := digits.value * 10 + digitValue c }
  else { digits with exponent := digits.exponent + 1, full := true }

/-- Takes in a digit behind the point. -/
def takeFraction (digits : Digits) (c : Char) : Digits :=
  if digits.full then digits
  else if digits.value * 10 + digitValue c < digitLimit then
    { digits with value := digits.value * 10 + digitValue c, exponent := digits.exponent - 1 }
  else { digits with full := true }

def ofWhole (text : List Char) : Digits := text.foldl takeWhole ⟨0, 0, false⟩

/-- Behind the point digits are taken in again as long as they fit. -/
def addFraction (digits : Digits) (text : List Char) : Digits :=
  text.foldl takeFraction { digits with full := false }

end Digits

/-- The parts of a written number. -/
structure Numeral where
  negative : Bool
  whole : List Char
  fraction : Option (List Char)
  exponent : Option (Bool × List Char)
  deriving DecidableEq, Repr

/-- The exponent that is written, with its sign. -/
def exponentValue : Option (Bool × List Char) → Int
  | none => 0
  | some (negative, digits) =>
      let magnitude : Int := digits.foldl (fun value c => value * 10 + digitValue c) 0
      if negative then -magnitude else magnitude

/-- The number that is written, if it is in range. Minus zero is not a whole number. -/
def Numeral.number? (numeral : Numeral) : Option Number :=
  let whole := Digits.ofWhole numeral.whole
  let isWhole := numeral.fraction.isNone && numeral.exponent.isNone && !whole.full
  if isWhole && !numeral.negative then some (.integer whole.value)
  else if isWhole && 0 < whole.value && whole.value ≤ 1 <<< 63 then some (.integer (-whole.value))
  else
    let digits := match numeral.fraction with
      | some fraction => whole.addFraction fraction
      | none => whole
    (Binary.ofDigits? numeral.negative digits.value
      (digits.exponent + exponentValue numeral.exponent)).map .real

/-- Digits and the text after them. -/
def spanDigits (text : List Char) : List Char × List Char :=
  (text.takeWhile Char.isDigit, text.dropWhile Char.isDigit)

/-- The digits before the point: a single zero, or digits that start with another one. -/
def readWhole (text : List Char) : Option (List Char × List Char) :=
  match spanDigits text with
  | ([], _) => none
  | ('0' :: _ :: _, _) => none
  | found => some found

/-- A fraction, if there is a point; it must have a digit. -/
def readFraction : List Char → Option (Option (List Char) × List Char)
  | '.' :: text =>
      match spanDigits text with
      | ([], _) => none
      | (digits, rest) => some (some digits, rest)
  | text => some (none, text)

/-- The sign of an exponent, which may be left out. -/
def readSign : List Char → Bool × List Char
  | '+' :: rest => (false, rest)
  | '-' :: rest => (true, rest)
  | text => (false, text)

/-- An exponent, if there is an `e`; it must have a digit. -/
def readExponent (text : List Char) : Option (Option (Bool × List Char) × List Char) :=
  match text with
  | c :: text' =>
      if c = 'e' ∨ c = 'E' then
        match spanDigits (readSign text').2 with
        | ([], _) => none
        | (digits, rest) => some (some ((readSign text').1, digits), rest)
      else some (none, text)
  | [] => some (none, [])

/-- A number without its sign, and the text after it. -/
def readMagnitude (negative : Bool) (text : List Char) : Option (Numeral × List Char) := do
  let (whole, text) ← readWhole text
  let (fraction, text) ← readFraction text
  let (exponent, rest) ← readExponent text
  return (⟨negative, whole, fraction, exponent⟩, rest)

/-- A number at the start of a text, and the text after it. -/
def readNumeral : List Char → Option (Numeral × List Char)
  | '-' :: text => readMagnitude true text
  | text => readMagnitude false text

theorem spanDigits_append (text : List Char) : (spanDigits text).1 ++ (spanDigits text).2 = text :=
  List.takeWhile_append_dropWhile

theorem length_spanDigits (text : List Char) :
    (spanDigits text).1.length + (spanDigits text).2.length = text.length := by
  rw [← List.length_append, spanDigits_append]

theorem length_of_readWhole {text digits rest : List Char}
    (h : readWhole text = some (digits, rest)) : rest.length < text.length := by
  have split := length_spanDigits text
  unfold readWhole at h
  split at h
  · simp at h
  · simp at h
  · rename_i notEmpty _
    rw [Option.some.inj h] at split notEmpty
    cases digits with
    | nil => exact absurd rfl (notEmpty rest)
    | cons digit digits => simp only [List.length_cons] at split; omega

theorem length_of_readFraction {text rest : List Char} {fraction : Option (List Char)}
    (h : readFraction text = some (fraction, rest)) : rest.length ≤ text.length := by
  unfold readFraction at h
  split at h
  · rename_i text
    have split := length_spanDigits text
    split at h
    · simp at h
    · simp_all; omega
  · simp_all

theorem length_of_readExponent {text rest : List Char} {exponent : Option (Bool × List Char)}
    (h : readExponent text = some (exponent, rest)) : rest.length ≤ text.length := by
  unfold readExponent at h
  split at h
  · rename_i c text
    have sign : (readSign text).2.length ≤ text.length := by
      unfold readSign
      split <;> simp
    have split := length_spanDigits (readSign text).2
    split at h
    · split at h
      · simp at h
      · simp_all; omega
    · simp_all
  · simp_all

theorem length_of_readMagnitude {negative : Bool} {text rest : List Char} {numeral : Numeral}
    (h : readMagnitude negative text = some (numeral, rest)) : rest.length < text.length := by
  simp only [readMagnitude, bind, Option.bind_eq_some_iff, pure] at h
  obtain ⟨⟨_, afterWhole⟩, whole, ⟨_, afterFraction⟩, fraction, ⟨_, afterExponent⟩, exponent, h⟩ := h
  have beforeFraction := length_of_readWhole whole
  have beforeExponent := length_of_readFraction fraction
  have beforeRest := length_of_readExponent exponent
  dsimp only at beforeExponent beforeRest
  simp only [Option.some.injEq, Prod.mk.injEq] at h
  obtain ⟨-, rfl⟩ := h
  omega

/-- A number takes up at least one character. -/
theorem length_of_readNumeral {text rest : List Char} {numeral : Numeral}
    (h : readNumeral text = some (numeral, rest)) : rest.length < text.length := by
  unfold readNumeral at h
  split at h
  · have := length_of_readMagnitude h
    simp only [List.length_cons]
    omega
  · exact length_of_readMagnitude h

end PermissionScreen.Json
