import PermissionScreen.Json.Escape
import PermissionScreen.Json.Numeral

/-!
The tokens of a JSON text, how each of them is written, and how a text falls into them.
-/

namespace PermissionScreen.Json

inductive Token where
  | openArray
  | closeArray
  | openObject
  | closeObject
  | comma
  | colon
  | null
  | bool (value : Bool)
  /-- The value is missing if it is out of range. -/
  | number (value : Option Number)
  /-- The value is missing if half of a surrogate pair is escaped. -/
  | text (value : Option String)
  /-- No token starts here. -/
  | stray
  deriving DecidableEq, Repr

/-- How a token is written. Only whole numbers and strings are ever written as values. -/
def Token.spell : Token → List Char
  | .openArray => ['[']
  | .closeArray => [']']
  | .openObject => ['\x7b']
  | .closeObject => ['\x7d']
  | .comma => [',']
  | .colon => [':']
  | .null => ['n', 'u', 'l', 'l']
  | .bool true => ['t', 'r', 'u', 'e']
  | .bool false => ['f', 'a', 'l', 's', 'e']
  | .number (some (.integer value)) => (toString value).toList
  | .text (some value) => '"' :: (value.toList.flatMap escape ++ ['"'])
  | .number _ | .text none | .stray => []

/-- Blanks separate tokens. -/
def isBlank (c : Char) : Bool := c = ' ' || c = '\t' || c = '\n' || c = '\r'

/-- The token at the start of a text, and the text after it. -/
def readToken : List Char → Option (Token × List Char)
  | '[' :: rest => some (.openArray, rest)
  | ']' :: rest => some (.closeArray, rest)
  | '\x7b' :: rest => some (.openObject, rest)
  | '\x7d' :: rest => some (.closeObject, rest)
  | ',' :: rest => some (.comma, rest)
  | ':' :: rest => some (.colon, rest)
  | 'n' :: 'u' :: 'l' :: 'l' :: rest => some (.null, rest)
  | 't' :: 'r' :: 'u' :: 'e' :: rest => some (.bool true, rest)
  | 'f' :: 'a' :: 'l' :: 's' :: 'e' :: rest => some (.bool false, rest)
  | '"' :: rest => (readPieces rest).map fun found =>
      (.text ((joinPieces found.1).map String.ofList), found.2)
  | text => (readNumeral text).map fun found => (.number found.1.number?, found.2)

theorem length_of_readToken {text rest : List Char} {token : Token}
    (h : readToken text = some (token, rest)) : rest.length < text.length := by
  unfold readToken at h
  split at h
  case h_10 =>
    obtain ⟨⟨pieces, rest⟩, found, h⟩ := Option.map_eq_some_iff.1 h
    have := length_of_readPieces found
    simp only [Prod.mk.injEq] at h
    obtain ⟨-, rfl⟩ := h
    simp only [List.length_cons]
    omega
  case h_11 =>
    obtain ⟨⟨numeral, rest⟩, found, h⟩ := Option.map_eq_some_iff.1 h
    simp only [Prod.mk.injEq] at h
    obtain ⟨-, rfl⟩ := h
    exact length_of_readNumeral found
  all_goals
    simp only [Option.some.injEq, Prod.mk.injEq] at h
    obtain ⟨-, rfl⟩ := h
    simp only [List.length_cons]
    omega

/-- The tokens of a text, up to the first place where none starts. -/
def tokenize (text : List Char) : List Token :=
  match text with
  | [] => []
  | c :: rest =>
      if isBlank c then tokenize rest
      else
        match _h : readToken (c :: rest) with
        | none => [.stray]
        | some (token, rest) => token :: tokenize rest
termination_by text.length
decreasing_by
  · simp
  · exact length_of_readToken _h

end PermissionScreen.Json
