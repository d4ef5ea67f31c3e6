import PermissionScreen.Collation
import PermissionScreen.Screen.Model

/-!
The order of the entries of a section: by title, but the entry that counts the groups on the other
screen comes last.
-/

namespace PermissionScreen

/-- The order of two entries. -/
def Entry.compare (alphabet : Alphabet) (left right : Entry) : Ordering :=
  match left.isAdditional, right.isAdditional with
  | true, false => .gt
  | false, true => .lt
  | _, _ => alphabet.compare left.title right.title

/-- Sorts entries; those that compare equal keep their order. -/
def sortEntries (alphabet : Alphabet) (entries : List Entry) : List Entry :=
  entries.mergeSort fun left right => (Entry.compare alphabet left right).isLE

theorem sortEntries_perm (alphabet : Alphabet) (entries : List Entry) :
    (sortEntries alphabet entries).Perm entries :=
  List.mergeSort_perm _ _

@[simp] theorem mem_sortEntries {alphabet : Alphabet} {entries : List Entry} {entry : Entry} :
    entry ∈ sortEntries alphabet entries ↔ entry ∈ entries :=
  (sortEntries_perm alphabet entries).mem_iff

end PermissionScreen
