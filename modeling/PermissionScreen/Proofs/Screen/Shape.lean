import PermissionScreen.Proofs.Screen.Coverage
import PermissionScreen.Proofs.Sorting.Entries

/-!
The shape of a screen's sections.

A section is filled in one of two ways: with entries for groups and an entry that counts groups, not
both of them missing, or with one entry that says that there are none (`entries_sectionOf_cases`).
Sorting puts the entry that counts last and the others in the order of their titles. Groups of one
title stay in the order in which they are listed first (`pairwise_listedBefore_sectionOf`).

`sections_wellShaped` puts this together for all sections of a screen.
-/

namespace PermissionScreen

/-- Whether the group of an entry is listed before that of another one. -/
def Groups.ListedBefore (groups : Groups) (first second : Entry) : Prop :=
  ∀ name ∈ first.group?, ∀ name' ∈ second.group?, groups.place name < groups.place name'

/-- What a section looks like. -/
structure Section.WellFormed (groups : Groups) (shown : Section) : Prop where
  nonempty : shown.entries ≠ []
  /-- An entry that says that there are none stands where there are none. -/
  placeholder_iff : (∃ entry ∈ shown.entries, entry.isPlaceholder = true) ↔
    shown.groupEntries = [] ∧ ∀ entry ∈ shown.entries, entry.isAdditional = false
  /-- It stands alone, and activating it does nothing. -/
  placeholder_alone : ∀ entry ∈ shown.entries, entry.isPlaceholder = true →
    shown.entries = [entry] ∧ entry.isSelectable = false
  /-- Activating any other entry does something. -/
  selectable : ∀ entry ∈ shown.entries, entry.isPlaceholder = false → entry.isSelectable = true
  /-- At most one entry counts groups. -/
  additional_unique : (shown.entries.filter (·.isAdditional)).length ≤ 1
  /-- It counts some. -/
  count_pos : ∀ entry ∈ shown.entries, ∀ count, entry.kind = .additional count → 0 < count
  /-- It comes after the others. -/
  additional_last : shown.entries =
    shown.entries.filter (!·.isAdditional) ++ shown.entries.filter (·.isAdditional)
  /-- These are in the order of their titles. -/
  ordered : (shown.entries.filter (!·.isAdditional)).Pairwise fun first second =>
    (Alphabet.unicode.compare first.title second.title).isLE
  /-- Where titles are the same, they are in the order in which their groups are listed first. -/
  stable : (shown.entries.filter (!·.isAdditional)).Pairwise fun first second =>
    first.title = second.title → groups.ListedBefore first second

/-- What the sections of a screen look like. -/
structure WellShaped (groups : Groups) (sections : List Section) : Prop where
  /-- There is a section for groups to be asked for if any are listed to be. -/
  categories : sections.map (·.category) =
    if groups.get .ask = [] then [.allowed, .denied] else [.allowed, .ask, .denied]
  wellFormed : ∀ shown ∈ sections, shown.WellFormed groups

namespace Scene

variable (scene : Scene) (category : Category) (listings : List (Category × Descriptor))

/-! ### What a section is filled with -/

theorem not_isPlaceholder_of_mem_shownEntries {entry : Entry}
    (mem : entry ∈ scene.shownEntries listings) : ¬ entry.isPlaceholder = true := by
  obtain ⟨listing, _, rfl⟩ := List.mem_map.mp mem
  exact Bool.false_ne_true

/-- A section has one entry that says that there are none, or it has others and not that. -/
theorem entries_sectionOf_cases :
    (scene.sectionOf category listings).entries = [scene.placeholderEntry category] ∨
      (∀ entry ∈ (scene.sectionOf category listings).entries, ¬ entry.isPlaceholder = true) ∧
        ∃ entry ∈ (scene.sectionOf category listings).entries,
          entry.group?.isSome = true ∨ entry.isAdditional = true := by
  have perm : (scene.sectionOf category listings).entries.Perm
      (scene.unsortedEntries category listings) := sortEntries_perm _ _
  rcases scene.unsortedEntries_cases category listings with
    ⟨_, eq⟩ | ⟨_, groups, eq⟩ | ⟨_, _, eq⟩
  · refine .inr ⟨fun entry mem => ?_, scene.additionalEntry category (scene.countOf listings), ?_,
      .inr rfl⟩
    · rw [perm.mem_iff, eq, List.mem_append, List.mem_singleton] at mem
      rcases mem with mem | rfl
      · exact scene.not_isPlaceholder_of_mem_shownEntries listings mem
      · exact Bool.false_ne_true
    · rw [perm.mem_iff, eq]
      exact List.mem_append_right _ (List.mem_singleton_self _)
  · obtain ⟨entry, mem⟩ := List.exists_mem_of_ne_nil _ groups
    refine .inr ⟨fun entry mem => ?_, entry, ?_, .inl ?_⟩
    · rw [perm.mem_iff, eq] at mem
      exact scene.not_isPlaceholder_of_mem_shownEntries listings mem
    · rwa [perm.mem_iff, eq]
    · obtain ⟨listing, _, rfl⟩ := List.mem_map.mp mem
      rfl
  · rw [eq] at perm
    exact .inl (List.perm_singleton.mp perm)

/-- The entries of a section are sorted. -/
theorem stablySorts_sectionOf :
    StablySorts (Entry.compare .unicode) (scene.unsortedEntries category listings)
      (scene.sectionOf category listings).entries :=
  stablySorts_sortEntries _ _

/-- At most one entry of a section counts groups. -/
theorem length_filter_isAdditional_sectionOf :
    ((scene.sectionOf category listings).entries.filter (·.isAdditional)).length ≤ 1 := by
  have counts := congrArg List.length (scene.counts_sectionOf category listings)
  have counting : (scene.sectionOf category listings).counts.length =
      ((scene.sectionOf category listings).entries.filter (·.isAdditional)).length := by
    rw [Section.counts, List.length_filterMap_eq_countP, List.countP_eq_length_filter]
    simp only [isAdditional_eq]
  rw [← counting, counts]
  split <;> simp

theorem count_pos_sectionOf {entry : Entry} {count : Nat}
    (mem : entry ∈ (scene.sectionOf category listings).entries)
    (counts : entry.kind = .additional count) : 0 < count := by
  have counted : count ∈ (scene.sectionOf category listings).counts :=
    List.mem_filterMap.mpr ⟨entry, mem, by rw [Entry.count?, counts]⟩
  rw [counts_sectionOf] at counted
  split at counted
  · exact absurd counted List.not_mem_nil
  · rw [List.mem_singleton] at counted
    omega

/-! ### The order of a section -/

variable {listings} {groups : Groups}

/-- Entries that are not told apart by their titles are in the order in which their groups are
listed first. -/
theorem pairwise_listedBefore_sectionOf
    (inOrder : listings.Pairwise fun a b =>
      groups.place (listedName a) < groups.place (listedName b)) :
    (scene.sectionOf category listings).entries.Pairwise fun first second =>
      Entry.compare .unicode first second = .eq → groups.ListedBefore first second := by
  refine (scene.stablySorts_sectionOf category listings).pairwise ?_
  have shown : (scene.shownEntries listings).Pairwise groups.ListedBefore := by
    refine List.pairwise_map.mpr ((inOrder.sublist List.filter_sublist).imp fun before => ?_)
    rintro name ⟨⟩ name' ⟨⟩
    exact before
  have unsorted : (scene.unsortedEntries category listings).Pairwise groups.ListedBefore := by
    rcases scene.unsortedEntries_cases category listings with ⟨_, eq⟩ | ⟨_, _, eq⟩ | ⟨_, _, eq⟩
    · rw [eq, List.pairwise_append]
      refine ⟨shown, List.pairwise_singleton _ _, fun entry _ counting mem => ?_⟩
      rw [List.mem_singleton.mp mem]
      rintro name _ name' ⟨⟩
    · rwa [eq]
    · rw [eq]
      exact List.pairwise_singleton _ _
  refine unsorted.imp ?_
  intro _ _ before _
  exact before

/-- A section is well formed if it is made of listings in their order. -/
theorem wellFormed_sectionOf
    (inOrder : listings.Pairwise fun a b =>
      groups.place (listedName a) < groups.place (listedName b)) :
    (scene.sectionOf category listings).WellFormed groups where
  nonempty := by
    rcases scene.entries_sectionOf_cases category listings with alone | ⟨_, entry, mem, _⟩
    · rw [alone]
      exact List.cons_ne_nil _ _
    · exact List.ne_nil_of_mem mem
  placeholder_iff := by
    rcases scene.entries_sectionOf_cases category listings with alone | ⟨others, entry, mem, kind⟩
    · simp [Section.groupEntries, alone, placeholderEntry, Entry.isPlaceholder,
        Entry.isAdditional, Entry.group?]
    · constructor
      · rintro ⟨entry, mem, placeholder⟩
        exact absurd placeholder (others entry mem)
      · rintro ⟨noGroup, noCount⟩
        rcases kind with group | counts
        · exact absurd group (List.filter_eq_nil_iff.mp noGroup entry mem)
        · exact absurd ((noCount entry mem).symm.trans counts) Bool.false_ne_true
  placeholder_alone entry mem placeholder := by
    rcases scene.entries_sectionOf_cases category listings with alone | ⟨others, _⟩
    · rw [alone] at mem ⊢
      rw [List.mem_singleton.mp mem]
      exact ⟨rfl, rfl⟩
    · exact absurd placeholder (others entry mem)
  selectable entry mem other := by
    rcases mem_sectionOf_cases mem with ⟨_, _, rfl⟩ | ⟨_, rfl⟩ | rfl
    · rfl
    · rfl
    · cases other
  additional_unique := scene.length_filter_isAdditional_sectionOf category listings
  count_pos _ mem _ := scene.count_pos_sectionOf category listings mem
  additional_last := additional_last (scene.stablySorts_sectionOf category listings).ordered
  ordered := by
    refine ((scene.stablySorts_sectionOf category listings).ordered.sublist
      List.filter_sublist).imp_of_mem fun {first second} left right le => ?_
    rwa [Entry.compare_of_shows (Entry.isAdditional_of_mem_filter left)
      (Entry.isAdditional_of_mem_filter right)] at le
  stable := by
    refine ((scene.pairwise_listedBefore_sectionOf category inOrder).sublist
      List.filter_sublist).imp_of_mem fun {first second} left right before same => before ?_
    rw [Entry.compare_eq_eq_iff, Entry.isAdditional_of_mem_filter left,
      Entry.isAdditional_of_mem_filter right]
    exact ⟨rfl, same⟩

end Scene

/-- **The shape of a screen.** Whatever is listed, the sections are those of the categories that are
shown, and each of them is well formed. -/
theorem sections_wellShaped (scene : Scene) (groups : Groups) :
    WellShaped groups (scene.sections groups) where
  categories := by
    rw [categories_sections]
    cases asked : groups.get .ask <;> simp [Scene.displayOrder, Groups.hasSection, asked]
  wellFormed shown mem := by
    rw [Scene.sections_eq] at mem
    obtain ⟨category, _, rfl⟩ := List.mem_map.mp mem
    exact scene.wellFormed_sectionOf category
      (groups.pairwise_place_firstListings.sublist List.filter_sublist)

end PermissionScreen
