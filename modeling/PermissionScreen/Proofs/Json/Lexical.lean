import Mathlib.Data.List.TakeWhile
import PermissionScreen.Json.Token

/-!
How the tokens of a JSON text are spelled.

A token may be spelled in more than one way: any character of a string may be escaped, a number may
have an exponent, and blanks may stand anywhere between tokens. `Token.Spelled` says how one token
may look, `Lexed` how a text may be put together from the spellings of its tokens; neither speaks of
a reader. `tokenize_of_lexed` says that the tokens are found again in all of these texts.
-/

namespace PermissionScreen.Json

/-! ### Numbers -/

/-- One digit or more. -/
structure IsDigits (digits : List Char) : Prop where
  nonempty : digits ≠ []
  isDigit : ∀ c ∈ digits, c.isDigit = true

/-- The digits before the point: zero stands alone, or not in front. -/
structure IsWhole (digits : List Char) : Prop extends IsDigits digits where
  noLeadingZero : digits.head? = some '0' → digits = ['0']

inductive FractionSpelled : Option (List Char) → List Char → Prop where
  | missing : FractionSpelled none []
  | digits {digits : List Char} : IsDigits digits → FractionSpelled (some digits) ('.' :: digits)

/-- The sign of an exponent; a plus may be left out. -/
inductive SignSpelled : (negative : Bool) → List Char → Prop where
  | missing : SignSpelled false []
  | plus : SignSpelled false ['+']
  | minus : SignSpelled true ['-']

inductive ExponentSpelled : Option (Bool × List Char) → List Char → Prop where
  | missing : ExponentSpelled none []
  | digits {mark : Char} {negative : Bool} {sign digits : List Char} : mark = 'e' ∨ mark = 'E' →
      SignSpelled negative sign → IsDigits digits →
      ExponentSpelled (some (negative, digits)) (mark :: (sign ++ digits))

inductive Numeral.Spelled : Numeral → List Char → Prop where
  | parts {negative : Bool} {whole fractionText exponentText : List Char}
      {fraction : Option (List Char)} {exponent : Option (Bool × List Char)} :
      IsWhole whole → FractionSpelled fraction fractionText →
      ExponentSpelled exponent exponentText →
      Numeral.Spelled ⟨negative, whole, fraction, exponent⟩
        ((if negative then ['-'] else []) ++ (whole ++ (fractionText ++ exponentText)))

/-- Whether a character would go on with the number that stands before it. -/
def goesOnNumber (c : Char) : Bool := c.isDigit || c = '.' || c = 'e' || c = 'E'

/-- A text that leaves a number that stands before it as it is. -/
def EndsNumber (text : List Char) : Prop := ∀ c ∈ text.head?, goesOnNumber c = false

section Numbers

variable {text rest digits : List Char}

theorem endsNumber_cons {c : Char} (ends : goesOnNumber c = false) : EndsNumber (c :: rest) := by
  rintro _ ⟨⟩
  exact ends

theorem EndsNumber.head_ne (ends : EndsNumber rest) {c : Char} (goesOn : goesOnNumber c = true) :
    rest.head? ≠ some c := by
  intro head
  exact Bool.false_ne_true ((ends c head).symm.trans goesOn)

/-- Digits end where a character follows that is no digit. -/
theorem spanDigits_of_isDigits (all : ∀ c ∈ digits, c.isDigit = true)
    (ends : ∀ c ∈ rest.head?, c.isDigit = false) : spanDigits (digits ++ rest) = (digits, rest) := by
  have none : rest.takeWhile Char.isDigit = [] ∧ rest.dropWhile Char.isDigit = rest := by
    cases rest with
    | nil => exact ⟨rfl, rfl⟩
    | cons c rest => simp [ends c rfl]
  rw [spanDigits, List.takeWhile_append_of_pos all, List.dropWhile_append_of_pos all, none.1, none.2,
    List.append_nil]

theorem EndsNumber.not_isDigit (ends : EndsNumber rest) :
    ∀ c ∈ rest.head?, c.isDigit = false := by
  intro c head
  have goesOn := ends c head
  simp only [goesOnNumber, Bool.or_eq_false_iff] at goesOn
  exact goesOn.1.1.1

theorem readWhole_append (whole : IsWhole digits) (ends : ∀ c ∈ rest.head?, c.isDigit = false) :
    readWhole (digits ++ rest) = some (digits, rest) := by
  rw [readWhole, spanDigits_of_isDigits whole.isDigit ends]
  split
  · next empty => exact absurd (congrArg Prod.fst empty) whole.nonempty
  · next leading =>
    obtain ⟨rfl, _⟩ := Prod.mk.inj leading
    exact absurd (whole.noLeadingZero rfl) (by simp)
  · rfl

theorem readFraction_append {fraction : Option (List Char)}
    (spelled : FractionSpelled fraction text) (noDigit : ∀ c ∈ rest.head?, c.isDigit = false)
    (noPoint : rest.head? ≠ some '.') : readFraction (text ++ rest) = some (fraction, rest) := by
  cases spelled with
  | missing =>
    rw [List.nil_append, readFraction.eq_def]
    split
    · exact absurd rfl noPoint
    · rfl
  | digits isDigits =>
    rw [List.cons_append, readFraction, spanDigits_of_isDigits isDigits.isDigit noDigit]
    split
    · next empty => exact absurd (congrArg Prod.fst empty) isDigits.nonempty
    · next found =>
      obtain ⟨rfl, rfl⟩ := Prod.mk.inj found
      rfl

theorem readSign_append {negative : Bool} {sign : List Char} (spelled : SignSpelled negative sign)
    (isDigits : IsDigits digits) :
    readSign (sign ++ (digits ++ rest)) = (negative, digits ++ rest) := by
  cases spelled with
  | plus => rfl
  | minus => rfl
  | missing =>
    obtain ⟨c, digits, rfl⟩ := List.exists_cons_of_ne_nil isDigits.nonempty
    have digit := isDigits.isDigit c List.mem_cons_self
    rw [List.nil_append, List.cons_append, readSign.eq_def]
    split
    · next plus =>
      obtain ⟨rfl, _⟩ := List.cons.inj plus
      exact absurd digit (by decide)
    · next minus =>
      obtain ⟨rfl, _⟩ := List.cons.inj minus
      exact absurd digit (by decide)
    · rfl

theorem readExponent_append {exponent : Option (Bool × List Char)}
    (spelled : ExponentSpelled exponent text) (ends : EndsNumber rest) :
    readExponent (text ++ rest) = some (exponent, rest) := by
  cases spelled with
  | missing =>
    cases rest with
    | nil => rfl
    | cons c rest =>
      have noMark : ¬ (c = 'e' ∨ c = 'E') := by
        rintro (rfl | rfl)
        · exact ends.head_ne (by decide) rfl
        · exact ends.head_ne (by decide) rfl
      rw [List.nil_append, readExponent, if_neg noMark]
  | digits mark sign isDigits =>
    rw [List.cons_append, List.append_assoc, readExponent, if_pos mark,
      readSign_append sign isDigits, spanDigits_of_isDigits isDigits.isDigit ends.not_isDigit]
    split
    · next empty => exact absurd (congrArg Prod.fst empty) isDigits.nonempty
    · next found =>
      obtain ⟨rfl, rfl⟩ := Prod.mk.inj found
      rfl

/-- What stands behind the digits before the point does not start with a digit or a second point. -/
theorem head_exponentText {exponent : Option (Bool × List Char)}
    (spelled : ExponentSpelled exponent text) (ends : EndsNumber rest) :
    ∀ c ∈ (text ++ rest).head?, c.isDigit = false ∧ c ≠ '.' := by
  intro c head
  cases spelled with
  | missing =>
    refine ⟨ends.not_isDigit c head, ?_⟩
    rintro rfl
    exact ends.head_ne (by decide) head
  | digits mark sign isDigits =>
    obtain rfl := Option.some.inj head
    rcases mark with rfl | rfl <;> exact ⟨by decide, by decide⟩

theorem head_fractionText {fraction : Option (List Char)} (spelled : FractionSpelled fraction text)
    (ends : ∀ c ∈ rest.head?, c.isDigit = false) :
    ∀ c ∈ (text ++ rest).head?, c.isDigit = false := by
  intro c head
  cases spelled with
  | missing => exact ends c head
  | digits isDigits =>
    obtain rfl := Option.some.inj head
    decide

/-- A spelled number is read as it is meant, if nothing behind it goes on with it. -/
theorem readNumeral_append {numeral : Numeral} (spelled : numeral.Spelled text)
    (ends : EndsNumber rest) : readNumeral (text ++ rest) = some (numeral, rest) := by
  cases spelled with
  | @parts negative whole fractionText exponentText fraction exponent isWhole ofFraction ofExponent =>
    have afterFraction := head_exponentText ofExponent ends
    have afterWhole := head_fractionText ofFraction fun c head => (afterFraction c head).1
    have magnitude : readMagnitude negative (whole ++ (fractionText ++ (exponentText ++ rest))) =
        some (⟨negative, whole, fraction, exponent⟩, rest) := by
      rw [readMagnitude, readWhole_append isWhole afterWhole]
      simp only [Option.bind_eq_bind, Option.bind_some]
      rw [readFraction_append ofFraction (fun c head => (afterFraction c head).1)
        fun head => (afterFraction '.' head).2 rfl]
      simp only [Option.bind_some]
      rw [readExponent_append ofExponent ends]
      rfl
    cases negative with
    | true => simpa [readNumeral] using magnitude
    | false =>
      obtain ⟨c, digits, rfl⟩ := List.exists_cons_of_ne_nil isWhole.nonempty
      have digit := isWhole.isDigit c List.mem_cons_self
      have noSign : c ≠ '-' := by
        rintro rfl
        exact absurd digit (by decide)
      simpa [readNumeral, noSign] using magnitude

end Numbers

/-! ### Strings -/

/-- A character as it is, one that is escaped by a letter, or a unit by its number. -/
inductive Piece.Spelled : Piece → List Char → Prop where
  | plain {c : Char} : 0x20 ≤ c.toNat → c ≠ '"' → c ≠ '\\' → Piece.Spelled (.char c) [c]
  | escaped {c letter : Char} : escaped? letter = some c → Piece.Spelled (.char c) ['\\', letter]
  | unit {a b c d : Char} {value : Nat} : unit? a b c d = some value →
      Piece.Spelled (.unit value) ['\\', 'u', a, b, c, d]

/-- The inside of a string. -/
inductive PiecesSpelled : List Piece → List Char → Prop where
  | nil : PiecesSpelled [] []
  | cons {piece : Piece} {pieces : List Piece} {front back : List Char} : piece.Spelled front →
      PiecesSpelled pieces back → PiecesSpelled (piece :: pieces) (front ++ back)

theorem readPieces_append {pieces : List Piece} {text : List Char}
    (spelled : PiecesSpelled pieces text) (rest : List Char) :
    readPieces (text ++ '"' :: rest) = some (pieces, rest) := by
  induction spelled with
  | nil => rw [List.nil_append, readPieces]
  | @cons piece pieces front back first _ ih =>
    cases first with
    | @plain c notControl notQuote notBackslash =>
      rw [List.append_assoc, List.singleton_append, readPieces.eq_def]
      split
      · next empty => exact absurd empty (by simp)
      · next quote => exact absurd (List.cons.inj quote).1 notQuote
      · next backslash => exact absurd (List.cons.inj backslash).1 notBackslash
      · next backslash => exact absurd (List.cons.inj backslash).1 notBackslash
      · next found =>
        obtain ⟨rfl, rfl⟩ := List.cons.inj found
        rw [if_neg (by omega), ih]
        rfl
    | @escaped c letter stands =>
      have notUnit : letter ≠ 'u' := by
        rintro rfl
        have none : escaped? 'u' = none := rfl
        rw [none] at stands
        exact Option.some_ne_none c stands.symm
      simp [readPieces, notUnit, stands, ih]
    | @unit a b c d value stands =>
      simp [readPieces, stands, ih]

/-! ### Tokens -/

/-- The tokens that are spelled in one way. -/
def fixedTokens : List Token :=
  [.openArray, .closeArray, .openObject, .closeObject, .comma, .colon, .null, .bool true,
    .bool false]

/-- How a token may be spelled. A number may be out of range, and a string may escape half of a pair
of units. -/
inductive Token.Spelled : Token → List Char → Prop where
  | fixed {token : Token} : token ∈ fixedTokens → Token.Spelled token token.spell
  | number {numeral : Numeral} {text : List Char} : numeral.Spelled text →
      Token.Spelled (.number numeral.number?) text
  | string {pieces : List Piece} {text : List Char} : PiecesSpelled pieces text →
      Token.Spelled (.text ((joinPieces pieces).map String.ofList)) ('"' :: (text ++ ['"']))

/-- Nothing may follow a number that would go on with it. -/
def Token.LeavesOff (token : Token) (rest : List Char) : Prop :=
  ∀ value, token = .number value → EndsNumber rest

theorem Token.leavesOff_text (value : Option String) (rest : List Char) :
    (Token.text value).LeavesOff rest := nofun

/-- A text that is put together from the spellings of tokens and from blanks. -/
inductive Lexed : List Token → List Char → Prop where
  | nil : Lexed [] []
  | blank {tokens : List Token} {c : Char} {text : List Char} : isBlank c = true →
      Lexed tokens text → Lexed tokens (c :: text)
  | token {token : Token} {tokens : List Token} {front back : List Char} : token.Spelled front →
      token.LeavesOff back → Lexed tokens back → Lexed (token :: tokens) (front ++ back)

theorem Numeral.Spelled.head {numeral : Numeral} {text : List Char}
    (spelled : numeral.Spelled text) :
    ∃ c rest, text = c :: rest ∧ (c = '-' ∨ c.isDigit = true) := by
  cases spelled with
  | @parts negative whole _ _ _ _ isWhole =>
    obtain ⟨c, digits, rfl⟩ := List.exists_cons_of_ne_nil isWhole.nonempty
    cases negative with
    | true => exact ⟨'-', _, rfl, .inl rfl⟩
    | false => exact ⟨c, _, rfl, .inr (isWhole.isDigit c List.mem_cons_self)⟩

/-- A token is read as it is meant. -/
theorem readToken_append {token : Token} {text rest : List Char} (spelled : token.Spelled text)
    (ends : token.LeavesOff rest) : readToken (text ++ rest) = some (token, rest) := by
  cases spelled with
  | fixed isFixed =>
    simp only [fixedTokens, List.mem_cons, List.not_mem_nil, or_false] at isFixed
    rcases isFixed with rfl | rfl | rfl | rfl | rfl | rfl | rfl | rfl | rfl <;> rfl
  | @number numeral text spelled =>
    obtain ⟨c, tail, rfl, start⟩ := spelled.head
    have read := readNumeral_append spelled (ends _ rfl)
    have notOther : ∀ other, other.isDigit = false → other ≠ '-' → c ≠ other := by
      rintro other noDigit noSign rfl
      rcases start with rfl | digit
      · exact noSign rfl
      · exact absurd (noDigit.symm.trans digit) Bool.false_ne_true
    rw [List.cons_append] at read ⊢
    rw [readToken.eq_def]
    split
    case h_11 => rw [read]; rfl
    all_goals
      next found => exact absurd (List.cons.inj found).1 (notOther _ (by decide) (by decide))
  | string inside =>
    rw [List.cons_append, List.append_assoc, List.singleton_append, readToken,
      readPieces_append inside]
    rfl

/-- No token starts with a blank. -/
theorem Token.Spelled.head {token : Token} {text : List Char} (spelled : token.Spelled text) :
    ∃ c rest, text = c :: rest ∧ isBlank c = false := by
  cases spelled with
  | fixed isFixed =>
    simp only [fixedTokens, List.mem_cons, List.not_mem_nil, or_false] at isFixed
    rcases isFixed with rfl | rfl | rfl | rfl | rfl | rfl | rfl | rfl | rfl <;>
      exact ⟨_, _, rfl, by decide⟩
  | number spelled =>
    obtain ⟨c, rest, rfl, start⟩ := spelled.head
    refine ⟨c, rest, rfl, Bool.eq_false_iff.mpr fun blank => ?_⟩
    simp only [isBlank, Bool.or_eq_true, decide_eq_true_eq] at blank
    rcases blank with ((rfl | rfl) | rfl) | rfl <;> exact absurd start (by decide)
  | string inside => exact ⟨'"', _, rfl, by decide⟩

/-- The tokens of a text are found again, however they are spelled. -/
theorem tokenize_of_lexed {tokens : List Token} {text : List Char} (lexed : Lexed tokens text) :
    tokenize text = tokens := by
  induction lexed with
  | nil => rw [tokenize]
  | blank isBlank _ ih => rw [tokenize, if_pos isBlank, ih]
  | @token token tokens front back spelled ends _ ih =>
    have read := readToken_append spelled ends
    obtain ⟨c, rest, rfl, notBlank⟩ := spelled.head
    rw [List.cons_append] at read ⊢
    rw [tokenize, if_neg (by simp [notBlank])]
    split
    · next none => exact absurd (none.symm.trans read) (by simp)
    · next found =>
      obtain ⟨rfl, rfl⟩ := Prod.mk.inj (Option.some.inj (found.symm.trans read))
      rw [ih]

end PermissionScreen.Json
