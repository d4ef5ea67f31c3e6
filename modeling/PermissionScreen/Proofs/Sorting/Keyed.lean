import Mathlib.Data.List.Nodup
import Mathlib.Data.List.Perm.Basic

/-!
Looking up by keys.

The first element of a list that has a key is the only one, if the keys of the list are distinct
(`find?_key_eq_some_iff`). So looking up names finds each element as often as its key is named.
-/

namespace PermissionScreen

open scoped List

variable {α β κ : Type} [DecidableEq κ] {key : α → κ} {elements : List α} {k : κ} {a : α}

theorem toList_head?_of_length_le_one (short : elements.length ≤ 1) :
    elements.head?.toList = elements := by
  match elements, short with
  | [], _ => rfl
  | [_], _ => rfl

theorem key_of_find?_eq_some (found : elements.find? (key · = k) = some a) : key a = k := by
  simpa using List.find?_some found

/-- Where keys are distinct, what is found by a key is the one element that has it. -/
theorem find?_key_eq_some_iff (distinct : (elements.map key).Nodup) :
    elements.find? (key · = k) = some a ↔ a ∈ elements ∧ key a = k := by
  constructor
  · intro found
    exact ⟨List.mem_of_find?_eq_some found, key_of_find?_eq_some found⟩
  · rintro ⟨mem, rfl⟩
    have isFound : (elements.find? (key · = key a)).isSome := by
      rw [List.find?_isSome]
      exact ⟨a, mem, decide_eq_true rfl⟩
    obtain ⟨b, found⟩ := Option.isSome_iff_exists.mp isFound
    have same : b = a := List.inj_on_of_nodup_map distinct (List.mem_of_find?_eq_some found) mem
      (key_of_find?_eq_some found)
    rw [found, same]

/-- Where keys are distinct, the elements of a key are the one that is found by it. -/
theorem filter_key_eq_toList_find? (distinct : (elements.map key).Nodup) (k : κ) :
    elements.filter (key · = k) = (elements.find? (key · = k)).toList := by
  rw [← List.head?_filter, toList_head?_of_length_le_one]
  have once := List.nodup_iff_count_le_one.mp distinct k
  rw [List.count, List.countP_map, List.countP_eq_length_filter] at once
  exact once

/-- Looking up names finds each element as often as its key is named. -/
theorem filterMap_find?_perm (distinct : (elements.map key).Nodup) (names : List κ)
    (title : α → β) :
    (names.filterMap fun name => (elements.find? (key · = name)).map title) ~
      elements.flatMap fun a => List.replicate (names.count (key a)) (title a) := by
  induction elements with
  | nil => simp
  | cons a rest ih =>
    obtain ⟨absent, distinct⟩ := List.nodup_cons.mp distinct
    let find := fun name => ((a :: rest).find? (key · = name)).map title
    have own : find (key a) = some (title a) := by simp [find]
    -- The names of the first element are taken out; the others are looked up behind it.
    have others : ∀ name ∈ names, (if (!decide (name = key a)) = true then find name else none) =
        (rest.find? (key · = name)).map title := by
      intro name _
      by_cases same : name = key a
      · have none : rest.find? (key · = key a) = none := by
          simpa using absent
        simp [same, none]
      · have differ : key a ≠ name := fun h => same h.symm
        simp [find, same, differ]
    calc
      names.filterMap find ~
          (names.filter (· = key a) ++ names.filter (!· = key a)).filterMap find :=
        (List.filter_append_perm _ _).symm.filterMap _
      _ = List.replicate (names.count (key a)) (title a) ++
            names.filterMap fun name => (rest.find? (key · = name)).map title := by
        rw [List.filterMap_append, List.filter_eq, List.filterMap_replicate_of_some own,
          List.filterMap_filter, List.filterMap_congr others]
      _ ~ _ := (ih distinct).append_left _

end PermissionScreen
