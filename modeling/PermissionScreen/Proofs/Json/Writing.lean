import PermissionScreen.Json.Writer
import PermissionScreen.Proofs.Json.Grammar

/-!
What is written is spelled correctly.

The trees that are ever written hold whole numbers of 64 bits, texts, truth values and null, in lists
and records (`Tree.Written`). The text that is written for such a tree spells it (`spelled_write`), and
so it is read again as what it was.
-/

namespace PermissionScreen.Json

/-! ### Whole numbers -/

/-- Digits are taken in one by one, as long as the number that they make up fits. -/
theorem foldl_takeWhole (digits : List Char) {value : Nat}
    (fits : Nat.ofDigitChars 10 digits value < digitLimit) :
    digits.foldl Digits.takeWhole ⟨value, 0, false⟩ =
      ⟨Nat.ofDigitChars 10 digits value, 0, false⟩ := by
  have grows : ∀ (digits : List Char) (value : Nat), value ≤ Nat.ofDigitChars 10 digits value := by
    intro digits
    induction digits with
    | nil => exact fun value => Nat.le_refl value
    | cons c rest ih =>
      intro value
      rw [Nat.ofDigitChars_cons]
      exact Nat.le_trans (by omega) (ih _)
  induction digits generalizing value with
  | nil => rfl
  | cons c rest ih =>
    rw [Nat.ofDigitChars_cons, Nat.mul_comm] at fits ⊢
    have next : value * 10 + digitValue c < digitLimit := Nat.lt_of_le_of_lt (grows rest _) fits
    have taken : Digits.takeWhole ⟨value, 0, false⟩ c = ⟨value * 10 + digitValue c, 0, false⟩ := by
      simp [Digits.takeWhole, next]
    rw [List.foldl_cons, taken]
    exact ih fits

theorem ofWhole_toDigits {n : Nat} (fits : n < digitLimit) :
    Digits.ofWhole (Nat.toDigits 10 n) = ⟨n, 0, false⟩ := by
  have value : Nat.ofDigitChars 10 (Nat.toDigits 10 n) 0 = n := Nat.ofDigitChars_ten_toDigits
  rw [Digits.ofWhole, foldl_takeWhole _ (by rwa [value]), value]

/-- The digits of a number do not start with zero, unless it is zero. -/
theorem isWhole_toDigits (n : Nat) : IsWhole (Nat.toDigits 10 n) where
  nonempty := Nat.toDigits_ne_nil
  isDigit _ mem := Nat.isDigit_of_mem_toDigits (by decide) (by decide) mem
  noLeadingZero := by
    induction n using Nat.strong_induction_on with
    | _ n ih =>
      by_cases small : n < 10
      · rw [Nat.toDigits_of_lt_base small]
        intro head
        rw [Option.some.inj head]
      · rw [Nat.toDigits_of_base_le (by decide) (Nat.not_lt.mp small)]
        intro head
        have front : (Nat.toDigits 10 (n / 10)).head? = some '0' := by
          obtain ⟨c, rest, eq⟩ := List.exists_cons_of_ne_nil (@Nat.toDigits_ne_nil (n / 10) 10)
          rw [eq] at head ⊢
          exact head
        have zero := ih (n / 10) (by omega) front
        have positive : n / 10 ≠ 0 := by omega
        have value : Nat.ofDigitChars 10 (Nat.toDigits 10 (n / 10)) 0 = n / 10 :=
          Nat.ofDigitChars_ten_toDigits
        rw [zero] at value
        exact absurd value.symm positive

/-- The digits of a number, with a minus in front or not, spell a numeral. -/
theorem spelled_toDigits (negative : Bool) (n : Nat) :
    Numeral.Spelled ⟨negative, Nat.toDigits 10 n, none, none⟩
      ((if negative then ['-'] else []) ++ Nat.toDigits 10 n) := by
  have parts := @Numeral.Spelled.parts negative _ _ _ _ _ (isWhole_toDigits n) .missing .missing
  rwa [List.append_nil, List.append_nil] at parts

theorem number?_natural {n : Nat} (fits : n < UInt64.size) :
    Numeral.number? ⟨false, Nat.toDigits 10 n, none, none⟩ = some (.integer n) := by
  simp [Numeral.number?, ofWhole_toDigits (show n < digitLimit from fits)]

theorem number?_negative {n : Nat} (positive : 0 < n) (fits : n ≤ 1 <<< 63) :
    Numeral.number? ⟨true, Nat.toDigits 10 n, none, none⟩ = some (.integer (-n)) := by
  have short : n < digitLimit := Nat.lt_of_le_of_lt fits (by decide)
  simp only [Numeral.number?, ofWhole_toDigits short, positive, fits]
  rfl

/-- Whole numbers with 64 bits, with or without a sign, are written as they are read. -/
theorem spelled_integer {value : Int} (least : Int64.minValue.toInt ≤ value)
    (greatest : value < UInt64.size) :
    Token.Spelled (.number (some (.integer value))) (toString value).toList := by
  have minimum : Int64.minValue.toInt = -(1 <<< 63 : Nat) := rfl
  rw [Int.toString_eq_repr, Int.repr_eq_if]
  by_cases positive : 0 ≤ value
  · obtain ⟨n, rfl⟩ := Int.eq_ofNat_of_zero_le positive
    rw [if_pos positive, Int.toNat_natCast, Nat.repr_eq_ofList_toDigits, String.toList_ofList,
      ← number?_natural (by omega)]
    exact .number (spelled_toDigits false n)
  · obtain ⟨n, magnitude⟩ := Int.eq_ofNat_of_zero_le (show 0 ≤ -value by omega)
    obtain rfl : value = -n := by omega
    rw [if_neg positive, Int.neg_neg, Int.toNat_natCast, Nat.repr_eq_ofList_toDigits,
      String.toList_append, String.toList_ofList (l := Nat.toDigits 10 n),
      ← number?_negative (by omega) (by omega)]
    exact .number (spelled_toDigits true n)

/-! ### Strings -/

theorem hexValue?_hexDigit : ∀ n < 16, hexValue? (hexDigit n) = some n := by decide

/-- A unit that is no half of a pair is a character of its own. -/
theorem joinPieces_unit {unit : Nat} (noHigh : isHighSurrogate unit = false)
    (noLow : isLowSurrogate unit = false) (pieces : List Piece) :
    joinPieces (.unit unit :: pieces) = (joinPieces pieces).map (Char.ofNat unit :: ·) := by
  rcases pieces with _ | ⟨c | low, rest⟩ <;> simp [joinPieces, noHigh, noLow]

/-- How a character is written is the spelling of a piece that stands for it. -/
theorem exists_piece_escape (c : Char) : ∃ piece : Piece, piece.Spelled (escape c) ∧
    ∀ pieces, joinPieces (piece :: pieces) = (joinPieces pieces).map (c :: ·) := by
  have plain : ∀ pieces, joinPieces (.char c :: pieces) = (joinPieces pieces).map (c :: ·) :=
    fun _ => by rw [joinPieces]
  unfold escape
  split
  case isTrue quote => exact ⟨.char c, .escaped (by rw [quote]; rfl), plain⟩
  split
  case isTrue backslash => exact ⟨.char c, .escaped (by rw [backslash]; rfl), plain⟩
  split
  case isTrue backspace => exact ⟨.char c, .escaped (by rw [backspace]; rfl), plain⟩
  split
  case isTrue formFeed => exact ⟨.char c, .escaped (by rw [formFeed]; rfl), plain⟩
  split
  case isTrue newline => exact ⟨.char c, .escaped (by rw [newline]; rfl), plain⟩
  split
  case isTrue return_ => exact ⟨.char c, .escaped (by rw [return_]; rfl), plain⟩
  split
  case isTrue tab => exact ⟨.char c, .escaped (by rw [tab]; rfl), plain⟩
  split
  case isTrue control =>
    refine ⟨.unit c.toNat, .unit ?_, fun pieces => ?_⟩
    · have zero : hexValue? '0' = some 0 := rfl
      rw [unit?, zero, hexValue?_hexDigit _ (by omega), hexValue?_hexDigit _ (by omega)]
      simp only [Option.bind_eq_bind, Option.bind_some, Option.pure_def, Option.some.injEq]
      omega
    · have noHigh : isHighSurrogate c.toNat = false := by
        simp only [isHighSurrogate, Bool.and_eq_false_iff, decide_eq_false_iff_not]
        omega
      have noLow : isLowSurrogate c.toNat = false := by
        simp only [isLowSurrogate, Bool.and_eq_false_iff, decide_eq_false_iff_not]
        omega
      rw [joinPieces_unit noHigh noLow, Char.ofNat_toNat]
  case isFalse quote backslash _ _ _ _ _ control =>
    exact ⟨.char c, .plain (Nat.not_lt.mp control) quote backslash, plain⟩

theorem exists_pieces_escape (text : List Char) : ∃ pieces,
    PiecesSpelled pieces (text.flatMap escape) ∧ joinPieces pieces = some text := by
  induction text with
  | nil => exact ⟨[], .nil, by rw [joinPieces]⟩
  | cons c rest ih =>
    obtain ⟨pieces, spelled, joined⟩ := ih
    obtain ⟨piece, first, stands⟩ := exists_piece_escape c
    exact ⟨piece :: pieces, .cons first spelled, by rw [stands, joined]; rfl⟩

/-- Every text is written as it is read. -/
theorem spelled_text (value : String) :
    Token.Spelled (.text (some value)) (Token.text (some value)).spell := by
  obtain ⟨pieces, spelled, joined⟩ := exists_pieces_escape value.toList
  have token := Token.Spelled.string spelled
  rw [joined, Option.map_some, String.ofList_toList] at token
  exact token

/-! ### Trees -/

/-- The trees that are written. -/
inductive Tree.Written : Tree → Prop where
  | null : Tree.Written .null
  | bool (value : Bool) : Tree.Written (.bool value)
  | text (value : String) : Tree.Written (.text value)
  | int {value : Int} : Int64.minValue.toInt ≤ value → value < UInt64.size →
      Tree.Written (.int value)
  | list {items : List Tree} : (∀ item ∈ items, item.Written) → Tree.Written (.list items)
  | record {members : List (String × Tree)} : (∀ member ∈ members, member.2.Written) →
      Tree.Written (.record members)

/-- A list of items, by what is put between them. -/
theorem phrased_separate_items {items : List Tree} (nonempty : items ≠ [])
    (each : ∀ item ∈ items, Phrased (.value item) item.tokens) :
    Phrased (.items items) (separate (itemTokens items)) := by
  induction items with
  | nil => exact absurd rfl nonempty
  | cons item rest ih =>
    have first := each item List.mem_cons_self
    cases rest with
    | nil => exact .lastItem first
    | cons next others =>
      exact .item first (ih (List.cons_ne_nil _ _) fun other mem =>
        each other (List.mem_cons_of_mem _ mem))

theorem phrased_separate_members {members : List (Option String × Tree)} (nonempty : members ≠ [])
    (each : ∀ member ∈ members, Phrased (.value member.2) member.2.tokens) :
    Phrased (.members members) (separate (memberTokens members)) := by
  induction members with
  | nil => exact absurd rfl nonempty
  | cons member rest ih =>
    have first := each member List.mem_cons_self
    cases rest with
    | nil => exact .lastMember member.1 first
    | cons next others =>
      exact .member member.1 first (ih (List.cons_ne_nil _ _) fun other mem =>
        each other (List.mem_cons_of_mem _ mem))

/-- The tokens that are written for a tree make it up. -/
theorem Tree.Written.phrased {tree : Tree} (written : tree.Written) :
    Phrased (.value tree) tree.tokens := by
  induction written with
  | null => exact .null
  | bool value => exact .bool value
  | text value => exact .text (some value)
  | @int value _ _ => exact .number (some (.integer value))
  | @list items _ ih =>
    by_cases empty : items = []
    · rw [empty]
      exact .emptyArray
    · exact .array (phrased_separate_items empty ih)
  | @record members _ ih =>
    by_cases empty : members = []
    · rw [empty]
      exact .emptyObject
    · refine .object (phrased_separate_members (by simpa using empty) fun member mem => ?_)
      obtain ⟨named, inRecord, rfl⟩ := List.mem_map.mp mem
      exact ih named inRecord

theorem mem_separate {parts : List (List Token)} {token : Token} (mem : token ∈ separate parts) :
    token = .comma ∨ ∃ part ∈ parts, token ∈ part := by
  induction parts with
  | nil => exact absurd mem List.not_mem_nil
  | cons part rest ih =>
    cases rest with
    | nil => exact .inr ⟨part, List.mem_cons_self, mem⟩
    | cons next others =>
      rw [separate, List.mem_append, List.mem_cons] at mem
      · rcases mem with mem | rfl | mem
        · exact .inr ⟨part, List.mem_cons_self, mem⟩
        · exact .inl rfl
        · rcases ih mem with comma | ⟨other, inRest, mem⟩
          · exact .inl comma
          · exact .inr ⟨other, List.mem_cons_of_mem _ inRest, mem⟩
      · exact List.cons_ne_nil _ _

theorem itemTokens_eq_map (items : List Tree) : itemTokens items = items.map Tree.tokens := by
  induction items with
  | nil => rfl
  | cons item rest ih => rw [itemTokens, ih, List.map_cons]

theorem memberTokens_eq_map (members : List (Option String × Tree)) :
    memberTokens members =
      members.map fun member => .text member.1 :: .colon :: member.2.tokens := by
  induction members with
  | nil => rfl
  | cons member rest ih => rw [memberTokens, ih, List.map_cons]

/-- Each of these tokens is written as it is read. -/
theorem Tree.Written.spelled_tokens {tree : Tree} (written : tree.Written) :
    ∀ token ∈ tree.tokens, token.Spelled token.spell := by
  have fixed : ∀ token ∈ fixedTokens, token.Spelled token.spell := fun _ => .fixed
  intro token mem
  induction written with
  | null => exact fixed token (by simp_all [Tree.tokens, fixedTokens])
  | bool value => cases value <;> exact fixed token (by simp_all [Tree.tokens, fixedTokens])
  | text value =>
    obtain rfl := List.mem_singleton.mp mem
    exact spelled_text value
  | int least greatest =>
    obtain rfl := List.mem_singleton.mp mem
    exact spelled_integer least greatest
  | @list items _ ih =>
    simp only [Tree.list, Tree.tokens, itemTokens_eq_map, List.cons_append, List.mem_cons,
      List.mem_append, if_true, List.not_mem_nil, or_false] at mem
    rcases mem with rfl | inside | rfl
    · exact fixed _ (by decide)
    · rcases mem_separate inside with rfl | ⟨part, ofItem, mem⟩
      · exact fixed _ (by decide)
      · obtain ⟨item, inList, rfl⟩ := List.mem_map.mp ofItem
        exact ih item inList mem
    · exact fixed _ (by decide)
  | @record members _ ih =>
    simp only [Tree.record, Tree.tokens, memberTokens_eq_map, List.cons_append, List.mem_cons,
      List.mem_append, if_true, List.not_mem_nil, or_false] at mem
    rcases mem with rfl | inside | rfl
    · exact fixed _ (by decide)
    · rcases mem_separate inside with rfl | ⟨part, ofMember, mem⟩
      · exact fixed _ (by decide)
      · simp only [List.map_map, List.mem_map] at ofMember
        obtain ⟨member, inRecord, rfl⟩ := ofMember
        simp only [Function.comp_apply, List.mem_cons] at mem
        rcases mem with rfl | rfl | mem
        · exact spelled_text member.1
        · exact fixed _ (by decide)
        · exact ih member inRecord mem
    · exact fixed _ (by decide)

/-- The tokens of a part may stand without blanks between them: a number is followed by a comma or by
a bracket. -/
theorem Phrased.lexed {part : Part} {tokens : List Token} (phrased : Phrased part tokens)
    (spelled : ∀ token ∈ tokens, token.Spelled token.spell) {more : List Token} {text : List Char}
    (ends : EndsNumber text) (behind : Lexed more text) :
    Lexed (tokens ++ more) (tokens.flatMap Token.spell ++ text) := by
  have fixed : ∀ token ∈ fixedTokens, token.Spelled token.spell := fun _ => .fixed
  -- Of a fixed token it is clear how it is spelled, and that nothing goes on with it.
  have put : ∀ token ∈ fixedTokens, ∀ {more text}, Lexed more text →
      Lexed (token :: more) (token.spell ++ text) := by
    intro token isFixed more text behind
    refine .token (.fixed isFixed) ?_ behind
    rintro value rfl
    exact absurd isFixed (by simp [fixedTokens])
  induction phrased generalizing more text with
  | null => exact put .null (by decide) behind
  | bool value => cases value <;> exact put _ (by decide) behind
  | number value =>
    rw [List.flatMap_singleton]
    exact .token (spelled _ List.mem_cons_self) (fun _ _ => ends) behind
  | text value =>
    rw [List.flatMap_singleton]
    exact .token (spelled _ List.mem_cons_self) (Token.leavesOff_text _ _) behind
  | emptyArray => exact put .openArray (by decide) (put .closeArray (by decide) behind)
  | array _ ih =>
    simp only [List.flatMap_cons, List.flatMap_append, List.flatMap_nil, List.append_assoc,
      List.cons_append, List.nil_append, List.forall_mem_append, List.forall_mem_cons] at spelled ⊢
    exact put .openArray (by decide) (ih spelled.2.1 (endsNumber_cons (c := ']') rfl)
      (put .closeArray (by decide) behind))
  | emptyObject => exact put .openObject (by decide) (put .closeObject (by decide) behind)
  | object _ ih =>
    simp only [List.flatMap_cons, List.flatMap_append, List.flatMap_nil, List.append_assoc,
      List.cons_append, List.nil_append, List.forall_mem_append, List.forall_mem_cons] at spelled ⊢
    exact put .openObject (by decide) (ih spelled.2.1 (endsNumber_cons (c := '\x7d') rfl)
      (put .closeObject (by decide) behind))
  | lastItem _ ih => exact ih spelled ends behind
  | item _ _ first rest =>
    simp only [List.flatMap_cons, List.flatMap_append, List.append_assoc, List.cons_append,
      List.forall_mem_append, List.forall_mem_cons] at spelled ⊢
    obtain ⟨inFront, _, inBack⟩ := spelled
    exact first inFront (endsNumber_cons (c := ',') rfl)
      (put .comma (by decide) (rest inBack ends behind))
  | lastMember name _ ih =>
    simp only [List.flatMap_cons, List.append_assoc, List.cons_append,
      List.forall_mem_cons] at spelled ⊢
    obtain ⟨ofName, _, inside⟩ := spelled
    exact .token ofName (Token.leavesOff_text _ _)
      (put .colon (by decide) (ih inside ends behind))
  | member name _ _ first rest =>
    simp only [List.flatMap_cons, List.flatMap_append, List.append_assoc, List.cons_append,
      List.forall_mem_append, List.forall_mem_cons] at spelled ⊢
    obtain ⟨ofName, _, inFront, _, inBack⟩ := spelled
    exact .token ofName (Token.leavesOff_text _ _) (put .colon (by decide) (first inFront
      (endsNumber_cons (c := ',') rfl) (put .comma (by decide) (rest inBack ends behind))))

/-- What is written for a tree spells it. -/
theorem Tree.Written.spelled_write {tree : Tree} (written : tree.Written) :
    Spelled tree tree.write := by
  have ends : EndsNumber [] := nofun
  have lexed := written.phrased.lexed written.spelled_tokens ends .nil
  rw [List.append_nil, List.append_nil] at lexed
  exact ⟨tree.tokens, written.phrased, by rwa [Tree.write, String.toList_ofList]⟩

end PermissionScreen.Json
