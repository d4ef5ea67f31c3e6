import PermissionScreen.Text.Enumeration

/-!
How a list of titles reads.

One title is its own phrase, and two have what stands in a pair between them. Of three or more all
but the last are joined by what stands in the middle, and the last is set off from them
(`Separators.Phrase`). Lists are named by this phrase and no other (`phrase_iff`).
-/

namespace PermissionScreen.Text.Separators

/-- A phrase that names some items. -/
inductive Phrase (separators : Separators) : List String → String → Prop where
  | none : Phrase separators [] ""
  | one (only : String) : Phrase separators [only] only
  | two (first second : String) :
      Phrase separators [first, second] (first ++ separators.pair ++ second)
  | several {front : List String} (last : String) : 2 ≤ front.length →
      Phrase separators (front ++ [last])
        (separators.middle.intercalate front ++ separators.final ++ last)

variable (separators : Separators)

theorem following_cons {rest : List String} (next : String) (more : rest ≠ []) :
    separators.following (next :: rest) =
      separators.middle ++ next ++ separators.following rest := by
  cases rest with
  | nil => exact absurd rfl more
  | cons => rfl

/-- All but the last of several items are joined. -/
theorem append_following (first : String) (rest : List String) (last : String) :
    first ++ separators.following (rest ++ [last]) =
      separators.middle.intercalate (first :: rest) ++ separators.final ++ last := by
  induction rest generalizing first with
  | nil => rw [List.nil_append, following, String.intercalate_singleton, String.append_assoc]
  | cons next rest ih =>
    calc
      first ++ separators.following (next :: (rest ++ [last])) =
          first ++ separators.middle ++ (next ++ separators.following (rest ++ [last])) := by
        rw [following_cons separators next (by simp)]
        simp only [String.append_assoc]
      _ = separators.middle.intercalate (first :: next :: rest) ++ separators.final ++ last := by
        rw [ih, String.intercalate_cons_cons]
        simp only [String.append_assoc]

theorem enumerate_append {front : List String} (several : 2 ≤ front.length) (last : String) :
    separators.enumerate (front ++ [last]) =
      separators.middle.intercalate front ++ separators.final ++ last := by
  match front, several with
  | first :: second :: rest, _ =>
    rw [← append_following]
    cases rest <;> rfl

variable {separators}

/-- A list is named by its phrase and no other. -/
theorem phrase_iff {items : List String} {phrase : String} :
    separators.Phrase items phrase ↔ separators.enumerate items = phrase := by
  constructor
  · intro names
    cases names with
    | none => rfl
    | one => rfl
    | two => rfl
    | several last several => exact enumerate_append _ several last
  · rintro rfl
    match items with
    | [] => exact .none
    | [only] => exact .one only
    | [first, second] => exact .two first second
    | first :: second :: third :: rest =>
      have split := List.dropLast_concat_getLast (List.cons_ne_nil first (second :: third :: rest))
      rw [← split, enumerate_append _ (by simp)]
      exact .several _ (by simp)

example : enumerate ⟨" and ", ", ", ", and "⟩ ["Camera", "Location", "Phone"] =
    "Camera, Location, and Phone" := by decide

end PermissionScreen.Text.Separators
