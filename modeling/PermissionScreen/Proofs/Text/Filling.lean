import Mathlib.Data.List.Infix
import PermissionScreen.Text.Slot

/-!
What is put into the slots of a template.

A template can be cut at its slots into pieces that have none, and the filled text is made of the
same pieces with the value between them. A slot cannot overlap with another one, as its brace stands
only at its start; so there is one way to cut, and `fill_eq_iff` says all there is to say about
filled templates.
-/

namespace PermissionScreen.Text

/-- A text with `value` in place of every occurrence of `pattern`: the pieces between the
occurrences stay, and no occurrence is left in them. -/
def ReplacesAll (pattern value text result : List Char) : Prop :=
  ∃ pieces : List (List Char), text = pattern.intercalate pieces ∧
    result = value.intercalate pieces ∧ ∀ piece ∈ pieces, ¬ pattern <:+: piece

section Replace

variable {pattern value more piece rest : List Char} {c : Char}

/-- What belongs to an occurrence that has been replaced is passed over. -/
theorem replaceFrom_length (pattern value front rest : List Char) :
    replaceFrom pattern value front.length (front ++ rest) = replaceFrom pattern value 0 rest := by
  induction front with
  | nil => rfl
  | cons d front ih => exact ih

theorem replaceFrom_pattern_append (nonempty : pattern ≠ []) (value rest : List Char) :
    replaceFrom pattern value 0 (pattern ++ rest) = value ++ replaceFrom pattern value 0 rest := by
  obtain ⟨c, more, rfl⟩ := List.exists_cons_of_ne_nil nonempty
  have occurs : (c :: more).isPrefixOf (c :: (more ++ rest)) = true :=
    List.isPrefixOf_iff_prefix.mpr ⟨rest, rfl⟩
  rw [List.cons_append, replaceFrom, if_pos occurs]
  exact congrArg _ (replaceFrom_length _ _ more rest)

/-- An occurrence that starts in a piece without one does not reach into the next one, as its first
character is not found later in it. -/
theorem not_prefix_append (once : c ∉ more) (absent : ¬ (c :: more) <:+: piece)
    (nonempty : piece ≠ []) (next : ∀ d ∈ rest.head?, d = c) : ¬ (c :: more) <+: piece ++ rest := by
  rintro ⟨tail, eq⟩
  rcases List.append_eq_append_iff.mp eq with ⟨inside, eq, _⟩ | ⟨overlap, eq, ahead⟩
  · exact absent ⟨[], inside, by simpa using eq.symm⟩
  · obtain ⟨d, piece, rfl⟩ := List.exists_cons_of_ne_nil nonempty
    obtain ⟨rfl, rfl⟩ := List.cons_eq_cons.mp eq
    cases overlap with
    | nil => exact absent ⟨[], [], by simp⟩
    | cons d overlap =>
      rw [ahead] at next
      obtain rfl : d = c := next d rfl
      exact once (by simp)

theorem replaceFrom_piece_append (once : c ∉ more) (value : List Char)
    (absent : ¬ (c :: more) <:+: piece) (next : ∀ d ∈ rest.head?, d = c) :
    replaceFrom (c :: more) value 0 (piece ++ rest) =
      piece ++ replaceFrom (c :: more) value 0 rest := by
  induction piece with
  | nil => rfl
  | cons d piece ih =>
    have notHere := not_prefix_append once absent (List.cons_ne_nil d piece) next
    have later : ¬ (c :: more) <:+: piece :=
      fun later => absent (List.infix_cons_iff.mpr (.inr later))
    rw [List.cons_append] at notHere ⊢
    rw [replaceFrom, if_neg (by rwa [List.isPrefixOf_iff_prefix]), ih later, List.cons_append]

/-- A text made of pieces is replaced between them. -/
theorem replaceFrom_intercalate (once : c ∉ more) (value : List Char) {pieces : List (List Char)}
    (absent : ∀ piece ∈ pieces, ¬ (c :: more) <:+: piece) :
    replaceFrom (c :: more) value 0 ((c :: more).intercalate pieces) =
      value.intercalate pieces := by
  induction pieces with
  | nil => rfl
  | cons piece pieces ih =>
    obtain ⟨here, later⟩ := List.forall_mem_cons.mp absent
    cases pieces with
    | nil =>
      have last : ∀ d ∈ ([] : List Char).head?, d = c := by simp
      rw [List.intercalate_singleton, List.intercalate_singleton, ← List.append_nil piece,
        replaceFrom_piece_append once value here last]
      rfl
    | cons next pieces =>
      rw [List.intercalate_cons_cons, List.intercalate_cons_cons, List.append_assoc,
        replaceFrom_piece_append once value here (by simp),
        replaceFrom_pattern_append (List.cons_ne_nil c more), ih later, List.append_assoc]

/-- Every text can be cut at the occurrences of a pattern. -/
theorem exists_pieces (nonempty : pattern ≠ []) (text : List Char) :
    ∃ pieces : List (List Char), pieces ≠ [] ∧ text = pattern.intercalate pieces ∧
      ∀ piece ∈ pieces, ¬ pattern <:+: piece := by
  induction length : text.length using Nat.strong_induction_on generalizing text with
  | _ n ih =>
  cases text with
  | nil => exact ⟨[[]], by simp, by simp, by simpa using nonempty⟩
  | cons d rest =>
    by_cases here : pattern <+: d :: rest
    · obtain ⟨back, eq⟩ := here
      have shorter : back.length < n := by
        have := congrArg List.length eq
        have := List.length_pos_of_ne_nil nonempty
        rw [List.length_append] at *
        omega
      obtain ⟨pieces, some, rfl, absent⟩ := ih _ shorter back rfl
      refine ⟨[] :: pieces, List.cons_ne_nil _ _, ?_, ?_⟩
      · rw [List.intercalate_cons_of_ne_nil some, List.nil_append, eq]
      · simpa [nonempty] using absent
    · obtain ⟨pieces, some, eq, absent⟩ := ih rest.length (by simp [← length]) rest rfl
      obtain ⟨piece, pieces, rfl⟩ := List.exists_cons_of_ne_nil some
      obtain ⟨first, later⟩ := List.forall_mem_cons.mp absent
      have longer : d :: rest = pattern.intercalate ((d :: piece) :: pieces) := by
        rw [eq]
        cases pieces <;> simp [List.intercalate_cons_cons]
      refine ⟨(d :: piece) :: pieces, List.cons_ne_nil _ _, longer, ?_⟩
      refine List.forall_mem_cons.mpr ⟨fun occurs => ?_, later⟩
      rcases List.infix_cons_iff.mp occurs with start | inside
      · refine here (start.trans ?_)
        rw [longer]
        cases pieces <;> simp [List.intercalate_cons_cons]
      · exact first inside

/-- Replacing is what a text with every occurrence replaced comes from. -/
theorem replaceFrom_eq_iff (once : c ∉ more) {value text result : List Char} :
    replaceFrom (c :: more) value 0 text = result ↔ ReplacesAll (c :: more) value text result := by
  constructor
  · rintro rfl
    obtain ⟨pieces, _, eq, absent⟩ := exists_pieces (List.cons_ne_nil c more) text
    exact ⟨pieces, eq, by rw [eq, replaceFrom_intercalate once value absent], absent⟩
  · rintro ⟨pieces, rfl, rfl, absent⟩
    exact replaceFrom_intercalate once value absent

end Replace

/-- A filled template has the value in every slot, and nothing else has changed. -/
theorem fill_eq_iff {name value template line : String} (plain : '\x7b' ∉ name.toList) :
    fill name value template = line ↔
      ReplacesAll (slot name).toList value.toList template.toList line.toList := by
  have shape : (slot name).toList = '\x7b' :: (name.toList ++ ['\x7d']) := by
    simp [slot]
  have once : '\x7b' ∉ name.toList ++ ['\x7d'] := by
    simpa using plain
  rw [shape, ← replaceFrom_eq_iff once, ← shape, fill, ← String.toList_inj, String.toList_ofList]

end PermissionScreen.Text
