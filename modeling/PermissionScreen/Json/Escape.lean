/-!
Strings as they are written in JSON. Quotes, backslashes and control characters are escaped; any
character may be escaped by the number of its UTF-16 unit, and one above U+FFFF by a pair of them.
-/

namespace PermissionScreen.Json

/-- A character of a written string, or a UTF-16 unit given by its number. -/
inductive Piece where
  | char (c : Char)
  | unit (value : Nat)
  deriving DecidableEq, Repr

def hexValue? (c : Char) : Option Nat :=
  if '0' ≤ c ∧ c ≤ '9' then some (c.toNat - '0'.toNat)
  else if 'a' ≤ c ∧ c ≤ 'f' then some (c.toNat - 'a'.toNat + 10)
  else if 'A' ≤ c ∧ c ≤ 'F' then some (c.toNat - 'A'.toNat + 10)
  else none

def hexDigit (n : Nat) : Char :=
  if n < 10 then Char.ofNat ('0'.toNat + n) else Char.ofNat ('a'.toNat + (n - 10))

/-- The unit that four hexadecimal digits number. -/
def unit? (a b c d : Char) : Option Nat := do
  let a ← hexValue? a
  let b ← hexValue? b
  let c ← hexValue? c
  let d ← hexValue? d
  return ((a * 16 + b) * 16 + c) * 16 + d

/-- What a backslash and one character stand for. -/
def escaped? : Char → Option Char
  | '"' => some '"'
  | '\\' => some '\\'
  | '/' => some '/'
  | 'b' => some '\x08'
  | 'f' => some '\x0c'
  | 'n' => some '\n'
  | 'r' => some '\r'
  | 't' => some '\t'
  | _ => none

/-- The pieces up to the closing quote, and the text after it. -/
def readPieces : List Char → Option (List Piece × List Char)
  | [] => none
  | '"' :: rest => some ([], rest)
  | '\\' :: 'u' :: a :: b :: c :: d :: rest => do
      let unit ← unit? a b c d
      let (pieces, rest) ← readPieces rest
      return (.unit unit :: pieces, rest)
  | '\\' :: c :: rest => do
      let c ← escaped? c
      let (pieces, rest) ← readPieces rest
      return (.char c :: pieces, rest)
  | c :: rest =>
      if c.toNat < 0x20 then none
      else do
        let (pieces, rest) ← readPieces rest
        return (.char c :: pieces, rest)

def isHighSurrogate (unit : Nat) : Bool := 0xD800 ≤ unit && unit < 0xDC00

def isLowSurrogate (unit : Nat) : Bool := 0xDC00 ≤ unit && unit < 0xE000

/-- The characters that pieces stand for; `none` if half of a surrogate pair stands alone. -/
def joinPieces : List Piece → Option (List Char)
  | [] => some []
  | .char c :: rest => (joinPieces rest).map (c :: ·)
  | .unit high :: .unit low :: rest =>
      if isHighSurrogate high then
        if isLowSurrogate low then
          (joinPieces rest).map
            (Char.ofNat (0x10000 + (high - 0xD800) * 0x400 + (low - 0xDC00)) :: ·)
        else none
      else if isLowSurrogate high then none
      else (joinPieces (.unit low :: rest)).map (Char.ofNat high :: ·)
  | .unit unit :: rest =>
      if isHighSurrogate unit || isLowSurrogate unit then none
      else (joinPieces rest).map (Char.ofNat unit :: ·)

/-- How a character of a string is written. -/
def escape (c : Char) : List Char :=
  if c = '"' then ['\\', '"']
  else if c = '\\' then ['\\', '\\']
  else if c = '\x08' then ['\\', 'b']
  else if c = '\x0c' then ['\\', 'f']
  else if c = '\n' then ['\\', 'n']
  else if c = '\r' then ['\\', 'r']
  else if c = '\t' then ['\\', 't']
  else if c.toNat < 0x20 then
    ['\\', 'u', '0', '0', hexDigit (c.toNat / 16), hexDigit (c.toNat % 16)]
  else [c]

/-- The text that is left behind pieces is left behind those that follow the first as well. -/
theorem read_of_read_cons {piece : Piece} {read : Option (List Piece × List Char)}
    {pieces : List Piece} {rest : List Char}
    (h : (do
      let (pieces, rest) ← read
      return (piece :: pieces, rest)) = some (pieces, rest)) :
    ∃ behind, read = some (behind, rest) := by
  obtain ⟨⟨behind, left⟩, found, eq⟩ := Option.bind_eq_some_iff.mp h
  obtain ⟨_, rfl⟩ := Prod.mk.inj (Option.some.inj eq)
  exact ⟨behind, found⟩

theorem length_of_readPieces {text rest : List Char} {pieces : List Piece}
    (h : readPieces text = some (pieces, rest)) : rest.length ≤ text.length := by
  fun_induction readPieces text generalizing pieces rest with
  | case1 => exact absurd h nofun
  | case2 text =>
    obtain ⟨_, rfl⟩ := Prod.mk.inj (Option.some.inj h)
    exact Nat.le_succ _
  | case3 a b c d text ih =>
    obtain ⟨unit, _, later⟩ := Option.bind_eq_some_iff.mp h
    obtain ⟨behind, found⟩ := read_of_read_cons later
    have shorter := ih found
    simp only [List.length_cons]
    omega
  | case4 c text _ ih =>
    obtain ⟨c, _, later⟩ := Option.bind_eq_some_iff.mp h
    obtain ⟨behind, found⟩ := read_of_read_cons later
    have shorter := ih found
    simp only [List.length_cons]
    omega
  | case5 => exact absurd h nofun
  | case6 c text _ _ _ _ ih =>
    obtain ⟨behind, found⟩ := read_of_read_cons h
    exact Nat.le_succ_of_le (ih found)

end PermissionScreen.Json
