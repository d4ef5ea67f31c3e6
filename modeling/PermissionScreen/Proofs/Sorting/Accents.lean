import Mathlib.Data.Char
import Mathlib.Data.List.Basic
import Mathlib.Order.Compare
import PermissionScreen.Collation

/-!
Accents in the order of titles.

Titles of the same letters are compared again with their marks. A mark stands behind its letter, so
that the first mark of a title meets the next letter of a title without marks. It is therefore not
the mark alone that decides but which of the two has the higher code point (`compare_of_firstMark`):
the title without marks comes first if it ends there or goes on with a letter below the mark.

The letters of most Latin alphabets are below the marks that they take. Greek and Cyrillic letters
are above them, and so a word with an accent in it may come before the same word without
(`accented_before_plain`).
-/

namespace PermissionScreen

/-! ### Marks and letter case -/

namespace Unicode

/-- Blocks of code points without a mark. The letters that have a lower case are in them, and so are
their lower cases. -/
def casedBlocks : List (Nat × Nat) := [
  (0x0000, 0x02FF), (0x0370, 0x0482), (0x048A, 0x0590), (0x109E, 0x135C), (0x1360, 0x1711),
  (0x1C38, 0x1CCF), (0x1CFA, 0x1DBF), (0x1E00, 0x20CF), (0x20F1, 0x2CEE), (0x2CF2, 0x2D7E),
  (0x309B, 0xA66E), (0xA67E, 0xA69D), (0xA6F2, 0xA801), (0xAAF7, 0xABE2), (0xFE30, 0x101FC),
  (0x1037B, 0x10A00), (0x10AE7, 0x10D23), (0x10D28, 0x10D68), (0x10D6E, 0x10EAA),
  (0x1183B, 0x1192F), (0x16B37, 0x16F4E), (0x1E8D7, 0x1E943)]

theorem casedBlocks_apart :
    ∀ block ∈ casedBlocks, ∀ range ∈ markRanges, block.2 < range.1 ∨ range.2 < block.1 := by
  decide +kernel

theorem lowerSpans_cased : ∀ span ∈ lowerSpans,
    (∃ block ∈ casedBlocks, block.1 ≤ span.1 ∧ span.2.1 ≤ block.2) ∧
      ∃ block ∈ casedBlocks,
        block.1 ≤ span.2.2.2 ∧ span.2.2.2 + (span.2.1 - span.1) ≤ block.2 := by
  decide +kernel

theorem isMark_iff {c : Char} :
    isMark c = true ↔ 0x300 ≤ c.toNat ∧ inRanges markRanges c.toNat = true := by
  simp [isMark]

/-- There are no marks between two code points of one block. -/
theorem inRanges_eq_false {first last c : Nat}
    (cased : ∃ block ∈ casedBlocks, block.1 ≤ first ∧ last ≤ block.2)
    (from_first : first ≤ c) (to_last : c ≤ last) : inRanges markRanges c = false := by
  obtain ⟨block, mem, _, _⟩ := cased
  apply Bool.eq_false_iff.mpr
  intro inside
  obtain ⟨range, marked, _, _⟩ := inRanges_iff.mp inside
  have apart := casedBlocks_apart block mem range marked
  omega

/-- A character is mapped by one of the spans, or stays as it is. -/
theorem mapSpan_cases (spans : List (Nat × Nat × Nat × Nat)) (c : Char) :
    mapSpan spans c = c ∨
      ∃ span ∈ spans, span.1 ≤ c.toNat ∧ c.toNat ≤ span.2.1 ∧
        mapSpan spans c = Char.ofNat (span.2.2.2 + (c.toNat - span.1)) := by
  unfold mapSpan
  split
  · next first last step image found =>
    have inside := List.find?_some found
    simp only [inSpan, Bool.and_eq_true, decide_eq_true_eq] at inside
    exact .inr ⟨_, List.mem_of_find?_eq_some found, inside.1.1, inside.1.2, rfl⟩
  · exact .inl rfl

theorem toNat_ofNat_cases (n : Nat) : (Char.ofNat n).toNat = n ∨ (Char.ofNat n).toNat = 0 := by
  by_cases valid : n.isValidChar
  · rw [Char.ofNat, dif_pos valid]
    exact .inl rfl
  · rw [Char.ofNat, dif_neg valid]
    exact .inr rfl

/-- A mark has no lower case. -/
theorem lowerChar_of_isMark {c : Char} (mark : isMark c = true) : lowerChar c = [c] := by
  obtain ⟨_, inside⟩ := isMark_iff.mp mark
  rw [lowerChar, if_neg (by omega), if_neg (by omega)]
  rcases mapSpan_cases lowerSpans c with same | ⟨span, mem, from_first, to_last, _⟩
  · rw [same]
  · have outside := inRanges_eq_false (lowerSpans_cased span mem).1 from_first to_last
    exact absurd (inside.symm.trans outside) (by decide)

theorem isMark_mapSpan {c : Char} (letter : isMark c = false) :
    isMark (mapSpan lowerSpans c) = false := by
  rcases mapSpan_cases lowerSpans c with same | ⟨span, mem, _, _, image⟩
  · rwa [same]
  · apply Bool.eq_false_iff.mpr
    intro mark
    obtain ⟨above, inside⟩ := isMark_iff.mp mark
    rw [image] at above inside
    rcases toNat_ofNat_cases (span.2.2.2 + (c.toNat - span.1)) with valid | invalid
    · rw [valid] at inside
      have outside := inRanges_eq_false (c := span.2.2.2 + (c.toNat - span.1))
        (lowerSpans_cased span mem).2 (by omega) (by omega)
      exact absurd (inside.symm.trans outside) (by decide)
    · omega

theorem isMark_toLower {c : Char} (ascii : c.toNat < 0x80) : isMark c.toLower = false := by
  have all : ∀ n < 0x80, isMark (Char.ofNat n).toLower = false := by decide
  simpa only [Char.ofNat_toNat] using all c.toNat ascii

/-- The lower case of a letter does not begin with a mark, though it may have one: the capital I
with a dot gives two characters. -/
theorem isMark_of_mem_head?_lowerChar {c d : Char} (letter : isMark c = false)
    (first : d ∈ (lowerChar c).head?) : isMark d = false := by
  unfold lowerChar at first
  split at first
  · next ascii =>
    obtain rfl : c.toLower = d := by simpa using first
    exact isMark_toLower ascii
  · split at first
    · obtain rfl : 'i' = d := by simpa using first
      rfl
    · obtain rfl : mapSpan lowerSpans c = d := by simpa using first
      exact isMark_mapSpan letter

end Unicode

/-! ### The first mark of a title -/

namespace Alphabet

/-- An alphabet in which marks have no case and no letter becomes a mark. -/
structure KeepsMarks (alphabet : Alphabet) : Prop where
  lower_mark : ∀ c, alphabet.isMark c = true → alphabet.lower c = [c]
  lower_letter : ∀ c, alphabet.isMark c = false →
    ∀ d ∈ (alphabet.lower c).head?, alphabet.isMark d = false

theorem keepsMarks_unicode : unicode.KeepsMarks where
  lower_mark _ := Unicode.lowerChar_of_isMark
  lower_letter _ letter _ := Unicode.isMark_of_mem_head?_lowerChar letter

variable (alphabet : Alphabet)

/-- The first mark of a title. -/
def firstMark? (title : String) : Option Char :=
  (alphabet.decompose title.toList).find? alphabet.isMark

/-- The letters of a title behind its first mark, in lower case. -/
def keyBehindMark (title : String) : List Char :=
  let behind := (alphabet.decompose title.toList).dropWhile (!alphabet.isMark ·)
  (behind.filter (!alphabet.isMark ·)).flatMap alphabet.lower

variable {alphabet} {plain accented : String} {mark : Char}

theorem firstMark?_eq_none_iff : alphabet.firstMark? plain = none ↔
    ∀ c ∈ alphabet.decompose plain.toList, alphabet.isMark c = false := by
  simp [firstMark?]

/-- Without marks the two keys of letters are the same. -/
theorem secondaryKey_of_firstMark?_eq_none (unmarked : alphabet.firstMark? plain = none) :
    alphabet.secondaryKey plain = alphabet.primaryKey plain := by
  have none : ∀ c ∈ alphabet.decompose plain.toList, !alphabet.isMark c := by
    simpa using firstMark?_eq_none_iff.mp unmarked
  rw [secondaryKey, primaryKey, letters, List.filter_eq_self.mpr none]

/-- The first mark of a title cuts its keys: up to it they are the same, then the one goes on with
the mark and the other with the letters behind it. -/
theorem keys_of_firstMark (keeps : alphabet.KeepsMarks)
    (marked : alphabet.firstMark? accented = some mark) :
    ∃ front back, alphabet.primaryKey accented = front ++ alphabet.keyBehindMark accented ∧
      alphabet.secondaryKey accented = front ++ mark :: back := by
  obtain ⟨isMark, front, back, cut, before⟩ := List.find?_eq_some_iff_append.mp marked
  refine ⟨front.flatMap alphabet.lower, back.flatMap alphabet.lower, ?_, ?_⟩
  · rw [primaryKey, letters, keyBehindMark, cut, List.dropWhile_append_of_pos before,
      List.dropWhile_cons_of_neg (by simp [isMark]), List.filter_append,
      List.filter_eq_self.mpr before, List.flatMap_append]
  · rw [secondaryKey, cut, List.flatMap_append, List.flatMap_cons, keeps.lower_mark mark isMark]
    rfl

/-- The key of letters does not begin with a mark. -/
theorem isMark_of_mem_head?_flatMap (keeps : alphabet.KeepsMarks) {characters : List Char}
    {d : Char} (letters : ∀ c ∈ characters, alphabet.isMark c = false)
    (first : d ∈ (characters.flatMap alphabet.lower).head?) : alphabet.isMark d = false := by
  rw [List.head?_flatMap] at first
  obtain ⟨c, mem, found⟩ := List.exists_of_findSome?_eq_some first
  exact keeps.lower_letter c (letters c mem) d found

theorem isMark_of_mem_head?_keyBehindMark (keeps : alphabet.KeepsMarks) {d : Char}
    (first : d ∈ (alphabet.keyBehindMark accented).head?) : alphabet.isMark d = false := by
  refine isMark_of_mem_head?_flatMap keeps ?_ first
  intro c mem
  simpa using (List.mem_filter.mp mem).2

end Alphabet

/-- What two texts begin with in common does not matter to their order. -/
theorem compare_append_left (front left right : List Char) :
    Ord.compare (front ++ left) (front ++ right) = Ord.compare left right := by
  induction front with
  | nil => rfl
  | cons c front ih =>
    have equal : Ord.compare c c = .eq := Std.ReflCmp.compare_self
    rw [List.cons_append, List.cons_append, List.compare_cons_cons, equal, ih]
    rfl

/-- **Accents.** Of two titles of the same letters, one without marks and the other with some, the
one without comes first if it has no letter where the other has its first mark, or one below that
mark. Otherwise it comes last. -/
theorem compare_of_firstMark {plain accented : String} {mark : Char}
    (same : Alphabet.unicode.primaryKey plain = Alphabet.unicode.primaryKey accented)
    (unmarked : Alphabet.unicode.firstMark? plain = none)
    (marked : Alphabet.unicode.firstMark? accented = some mark) :
    Alphabet.unicode.compare plain accented =
      if (Alphabet.unicode.keyBehindMark accented).head?.all (· < mark) then .lt
      else .gt := by
  obtain ⟨front, back, primary, secondary⟩ :=
    Alphabet.keys_of_firstMark Alphabet.keepsMarks_unicode marked
  have marks : Alphabet.unicode.isMark mark = true := List.find?_some marked
  have plainKey : Alphabet.unicode.secondaryKey plain =
      front ++ Alphabet.unicode.keyBehindMark accented := by
    rw [Alphabet.secondaryKey_of_firstMark?_eq_none unmarked, same, primary]
  have equal : Ord.compare (Alphabet.unicode.primaryKey accented)
      (Alphabet.unicode.primaryKey accented) = .eq := Std.ReflCmp.compare_self
  rw [Alphabet.compare_eq, same, equal, Ordering.eq_then, plainKey, secondary,
    compare_append_left]
  cases behind : Alphabet.unicode.keyBehindMark accented with
  | nil => simp
  | cons letter rest =>
    have other : letter ≠ mark := by
      rintro rfl
      have first : letter ∈ (Alphabet.unicode.keyBehindMark accented).head? := by
        rw [behind]
        rfl
      have none := Alphabet.isMark_of_mem_head?_keyBehindMark Alphabet.keepsMarks_unicode first
      exact absurd (marks.symm.trans none) (by decide)
    rw [List.compare_cons_cons]
    rcases lt_or_gt_of_ne other with below | above
    · rw [compare_lt_iff_lt.mpr below]
      simp [below]
    · rw [compare_gt_iff_gt.mpr above]
      simp [above.not_gt]

/-- The letter behind the accent is below it. -/
example : Alphabet.unicode.compare "ecole" "école" = .lt := by decide +kernel

/-- A Russian word that is also written without the two dots on its first letter. -/
theorem marks_hedgehog : Alphabet.unicode.primaryKey "еж" = Alphabet.unicode.primaryKey "ёж" ∧
    Alphabet.unicode.firstMark? "еж" = none ∧
    Alphabet.unicode.firstMark? "ёж" = some '\u0308' := by
  decide +kernel

/-- The letter behind the dots is above them, and so the word with the dots comes first. -/
theorem compare_of_firstMark_hedgehog :
    Alphabet.unicode.primaryKey "еж" = Alphabet.unicode.primaryKey "ёж" ∧
      Alphabet.unicode.firstMark? "еж" = none ∧
      Alphabet.unicode.firstMark? "ёж" = some '\u0308' ∧
      Alphabet.unicode.compare "еж" "ёж" =
        if (Alphabet.unicode.keyBehindMark "ёж").head?.all (· < '\u0308') then .lt
        else .gt := by
  obtain ⟨same, unmarked, marked⟩ := marks_hedgehog
  exact ⟨same, unmarked, marked, compare_of_firstMark same unmarked marked⟩

/-- Not all titles without marks come before those of the same letters with marks. -/
theorem accented_before_plain :
    ¬ ∀ plain accented : String,
      Alphabet.unicode.primaryKey plain = Alphabet.unicode.primaryKey accented →
      (∀ c ∈ Alphabet.unicode.decompose plain.toList, Alphabet.unicode.isMark c = false) →
      (∃ c ∈ Alphabet.unicode.decompose accented.toList, Alphabet.unicode.isMark c = true) →
        Alphabet.unicode.compare plain accented = .lt := by
  intro before
  obtain ⟨same, unmarked, marked⟩ := marks_hedgehog
  have less := before "еж" "ёж" same (Alphabet.firstMark?_eq_none_iff.mp unmarked)
    ⟨_, List.mem_of_find?_eq_some marked, List.find?_some marked⟩
  revert less
  decide +kernel

end PermissionScreen
