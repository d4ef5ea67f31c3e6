import PermissionScreen.Proofs.Sorting.Stable
import PermissionScreen.Screen.EntryOrder

/-!
The order of titles and of entries.

Titles are compared by one key after the other and at last by their code points, so that their order
is total whatever an alphabet says about characters. Entries are compared by whether they count the
groups on the other screen, then by their titles. Both are orders for which sorting makes sense;
what `sortEntries` returns is the only stable sort (`orders_titles_entries`).
-/

namespace PermissionScreen

namespace Alphabet

variable (alphabet : Alphabet)

instance : Std.TransCmp alphabet.compare :=
  inferInstanceAs (Std.TransCmp (compareLex (compareOn alphabet.primaryKey)
    (compareLex (compareOn alphabet.secondaryKey)
      (compareLex (compareOn alphabet.tertiaryKey) Ord.compare))))

/-- Only a title is equal to itself: titles that agree in all keys are compared as they are. -/
instance : Std.LawfulEqCmp alphabet.compare where
  eq_of_compare {left right} equal := by
    rw [compare_eq] at equal
    simp only [Ordering.then_eq_eq] at equal
    exact Std.LawfulEqCmp.eq_of_compare equal.2.2.2

end Alphabet

namespace Entry

variable (alphabet : Alphabet)

/-- Entries are compared first by whether they count groups, then by their titles. -/
theorem compare_eq (left right : Entry) :
    Entry.compare alphabet left right =
      (Ord.compare left.isAdditional right.isAdditional).then
        (alphabet.compare left.title right.title) := by
  unfold Entry.compare
  cases left.isAdditional <;> cases right.isAdditional <;> rfl

instance : Std.TransCmp (Entry.compare alphabet) := by
  have lexicographic : Entry.compare alphabet =
      compareLex (compareOn Entry.isAdditional)
        fun left right => alphabet.compare left.title right.title :=
    funext fun left => funext fun right => compare_eq alphabet left right
  have titles : Std.TransCmp fun left right : Entry =>
      alphabet.compare left.title right.title :=
    { eq_swap := (ordersAll alphabet.compare).swap _ _
      isLE_trans := fun first second => Std.TransCmp.isLE_trans first second }
  rw [lexicographic]
  infer_instance

theorem compare_eq_eq_iff (left right : Entry) :
    Entry.compare alphabet left right = .eq ↔
      left.isAdditional = right.isAdditional ∧ left.title = right.title := by
  rw [compare_eq, Ordering.then_eq_eq, Std.LawfulEqCmp.compare_eq_iff_eq,
    Std.LawfulEqCmp.compare_eq_iff_eq]

variable {alphabet}

/-- Entries that do not count groups are compared by their titles. -/
theorem compare_of_shows {left right : Entry} (shows : left.isAdditional = false)
    (shows' : right.isAdditional = false) :
    Entry.compare alphabet left right = alphabet.compare left.title right.title := by
  rw [compare_eq, shows, shows']
  rfl

/-- An entry that counts groups comes after every entry that does not. -/
theorem compare_of_isAdditional {counting other : Entry} (counts : counting.isAdditional = true)
    (shows : other.isAdditional = false) : Entry.compare alphabet counting other = .gt := by
  rw [compare_eq, counts, shows]
  rfl

theorem isAdditional_of_isLE {left right : Entry}
    (le : (Entry.compare alphabet left right).isLE) (counts : left.isAdditional = true) :
    right.isAdditional = true := by
  by_contra shows
  rw [compare_of_isAdditional counts (Bool.eq_false_iff.mpr shows)] at le
  exact absurd le (by decide)

theorem isAdditional_of_mem_filter {entries : List Entry} {entry : Entry}
    (mem : entry ∈ entries.filter (!·.isAdditional)) : entry.isAdditional = false := by
  simpa using (List.mem_filter.mp mem).2

end Entry

theorem stablySorts_sortEntries (alphabet : Alphabet) (entries : List Entry) :
    StablySorts (Entry.compare alphabet) entries (sortEntries alphabet entries) :=
  stablySorts_mergeSort (Entry.compare alphabet) entries

/-- In ordered entries, those that count groups are the last. -/
theorem additional_last {alphabet : Alphabet} {entries : List Entry}
    (ordered : entries.Pairwise fun left right => (Entry.compare alphabet left right).isLE) :
    entries = entries.filter (!·.isAdditional) ++ entries.filter (·.isAdditional) := by
  induction entries with
  | nil => rfl
  | cons first rest ih =>
    obtain ⟨least, ordered⟩ := List.pairwise_cons.mp ordered
    cases counts : first.isAdditional with
    | false =>
      rw [List.filter_cons_of_pos (by simp [counts]), List.filter_cons_of_neg (by simp [counts]),
        List.cons_append, ← ih ordered]
    | true =>
      have all : ∀ entry ∈ rest, entry.isAdditional = true := fun entry mem =>
        Entry.isAdditional_of_isLE (least entry mem) counts
      rw [List.filter_eq_nil_iff.mpr, List.filter_eq_self.mpr, List.nil_append]
      · simpa [counts] using all
      · simpa [counts] using all

/-- What an alphabet makes of titles and entries, whatever it says about characters. -/
structure Alphabet.OrdersScreen (alphabet : Alphabet) : Prop where
  titles : OrdersAll alphabet.compare
  /-- Only a title is equal to itself. -/
  titles_eq_iff : ∀ left right, alphabet.compare left right = .eq ↔ left = right
  entries : OrdersAll (Entry.compare alphabet)
  /-- Entries are equal if their titles are, unless one of them counts groups and the other not. -/
  entries_eq_iff : ∀ left right, Entry.compare alphabet left right = .eq ↔
    left.isAdditional = right.isAdditional ∧ left.title = right.title
  additional_gt : ∀ counting other : Entry, counting.isAdditional = true →
    other.isAdditional = false → Entry.compare alphabet counting other = .gt
  /-- Sorting finds the one stable sort. -/
  sort_eq_iff : ∀ entries sorted,
    sortEntries alphabet entries = sorted ↔ StablySorts (Entry.compare alphabet) entries sorted
  /-- The entries that count groups are at the end. -/
  sort_eq_append : ∀ entries, ∃ shown counting, sortEntries alphabet entries = shown ++ counting ∧
    (∀ entry ∈ shown, entry.isAdditional = false) ∧ ∀ entry ∈ counting, entry.isAdditional = true

/-- **One order of titles, one of entries.** By any alphabet, titles are ordered totally and entries
up to those of one title and kind; sorting entries gives their only stable sort, in which those that
count groups are the last. -/
theorem orders_titles_entries (alphabet : Alphabet) : alphabet.OrdersScreen where
  titles := ordersAll alphabet.compare
  titles_eq_iff _ _ := Std.LawfulEqCmp.compare_eq_iff_eq
  entries := ordersAll (Entry.compare alphabet)
  entries_eq_iff := Entry.compare_eq_eq_iff alphabet
  additional_gt _ _ := Entry.compare_of_isAdditional
  sort_eq_iff entries sorted := by
    have sorts := stablySorts_sortEntries alphabet entries
    constructor
    · rintro rfl
      exact sorts
    · exact sorts.unique
  sort_eq_append entries :=
    ⟨_, _, additional_last (stablySorts_sortEntries alphabet entries).ordered,
      fun _ => Entry.isAdditional_of_mem_filter, fun _ mem => (List.mem_filter.mp mem).2⟩

end PermissionScreen
