import Mathlib.Algebra.GroupWithZero.Nat
import Mathlib.Data.List.Perm.Basic
import PermissionScreen.Proofs.Group.FirstListing
import PermissionScreen.Screen.Sections

/-!
What the sections of a screen are made of.

The sections are made one after the other, and each hands on the names that have been listed. Here
they are given all at once: the section of a category is made of the groups whose first listing is
shown in that category (`sections_eq`). Which of its groups a section shows and which it counts
depends on the screen; `select_eq` says how.

* `groupEntries_sections_perm`: the entries for groups, over all sections, are those of the first
  listings that belong to the screen.
* `countsOf_sections`: each section counts the first listings that belong to the other screen.
-/

namespace PermissionScreen

open scoped List

/-- Whether a screen shows the group of a listing. -/
def isShown (onSystem : Bool) (listing : Category × Descriptor) : Bool :=
  listing.2.isSystem = onSystem

/-- Whether a screen counts the group of a listing instead of showing it. -/
def isCounted (onSystem : Bool) (listing : Category × Descriptor) : Bool :=
  onSystem && !listing.2.isSystem

/-- A selection takes the new listings apart: those that belong to the screen are shown, others are
counted or left out, and the names of all of them are handed on. -/
theorem select_eq (onSystem : Bool) (seen : List String)
    (listings : List (Category × Descriptor)) :
    select onSystem seen listings =
      ⟨(freshListings seen listings).filter (isShown onSystem),
        ((freshListings seen listings).filter (isCounted onSystem)).length,
        ((freshListings seen listings).map listedName).reverse ++ seen⟩ := by
  induction listings generalizing seen with
  | nil => rfl
  | cons first rest ih =>
    obtain ⟨source, descriptor⟩ := first
    by_cases old : descriptor.group ∈ seen
    · rw [freshListings_cons_of_mem old, ← ih, select, if_pos old]
    · rw [freshListings_cons_of_not_mem old, select, if_neg old, ih]
      cases onSystem <;> cases belongs : descriptor.isSystem <;>
        simp [isShown, isCounted, belongs]

/-! ### The entries of one section -/

/-- The number of groups that an entry stands for, if it counts groups. -/
def Entry.count? (entry : Entry) : Option Nat :=
  match entry.kind with
  | .additional count => some count
  | _ => none

/-- The entries of a section that stand for a group. -/
def Section.groupEntries (shown : Section) : List Entry :=
  shown.entries.filter (·.group?.isSome)

/-- The numbers that a section counts. -/
def Section.counts (shown : Section) : List Nat := shown.entries.filterMap Entry.count?

namespace Scene

variable {scene : Scene} {category : Category} {listings : List (Category × Descriptor)}

/-- The entries for the listings that the screen shows. -/
def shownEntries (scene : Scene) (listings : List (Category × Descriptor)) : List Entry :=
  (listings.filter (isShown scene.args.isSystem)).map fun listing =>
    scene.groupEntry listing.1 listing.2

/-- The number of the listings that the screen counts. -/
def countOf (scene : Scene) (listings : List (Category × Descriptor)) : Nat :=
  (listings.filter (isCounted scene.args.isSystem)).length

/-- The entry for the listings that the screen counts, if there are any. -/
def countEntry (scene : Scene) (category : Category)
    (listings : List (Category × Descriptor)) : List Entry :=
  if 0 < scene.countOf listings then
    [scene.additionalEntry category (scene.countOf listings)]
  else []

/-- The entries of a section, not yet sorted. -/
def unsortedEntries (scene : Scene) (category : Category)
    (listings : List (Category × Descriptor)) : List Entry :=
  let all := scene.shownEntries listings ++ scene.countEntry category listings
  if all.isEmpty then [scene.placeholderEntry category] else all

/-- The section of a category that is made of some listings. -/
def sectionOf (scene : Scene) (category : Category) (listings : List (Category × Descriptor)) :
    Section :=
  ⟨category, sortEntries .unicode (scene.unsortedEntries category listings)⟩

theorem entries_select (scene : Scene) (category : Category) (seen : List String)
    (listings : List (Category × Descriptor)) :
    scene.entries category (select scene.args.isSystem seen listings) =
      (scene.sectionOf category (freshListings seen listings)).entries := by
  rw [select_eq]
  rfl

@[simp] theorem group?_groupEntry (scene : Scene) (source : Category) (descriptor : Descriptor) :
    (scene.groupEntry source descriptor).group? = some descriptor.group := rfl

@[simp] theorem count?_groupEntry (scene : Scene) (source : Category) (descriptor : Descriptor) :
    (scene.groupEntry source descriptor).count? = none := rfl

@[simp] theorem group?_additionalEntry (scene : Scene) (category : Category) (count : Nat) :
    (scene.additionalEntry category count).group? = none := rfl

@[simp] theorem count?_additionalEntry (scene : Scene) (category : Category) (count : Nat) :
    (scene.additionalEntry category count).count? = some count := rfl

@[simp] theorem group?_placeholderEntry (scene : Scene) (category : Category) :
    (scene.placeholderEntry category).group? = none := rfl

@[simp] theorem count?_placeholderEntry (scene : Scene) (category : Category) :
    (scene.placeholderEntry category).count? = none := rfl

/-- The three ways to fill a section: with groups and their count, with groups alone, or with the
entry that says that there are none. -/
theorem unsortedEntries_cases (scene : Scene) (category : Category)
    (listings : List (Category × Descriptor)) :
    (0 < scene.countOf listings ∧
      scene.unsortedEntries category listings =
        scene.shownEntries listings ++
          [scene.additionalEntry category (scene.countOf listings)]) ∨
    (scene.countOf listings = 0 ∧ scene.shownEntries listings ≠ [] ∧
      scene.unsortedEntries category listings = scene.shownEntries listings) ∨
    (scene.countOf listings = 0 ∧ scene.shownEntries listings = [] ∧
      scene.unsortedEntries category listings = [scene.placeholderEntry category]) := by
  rcases Nat.eq_zero_or_pos (scene.countOf listings) with noCount | count
  · by_cases noGroup : scene.shownEntries listings = []
    · exact .inr (.inr ⟨noCount, noGroup, by simp [unsortedEntries, countEntry, noCount, noGroup]⟩)
    · exact .inr (.inl ⟨noCount, noGroup, by simp [unsortedEntries, countEntry, noCount, noGroup]⟩)
  · exact .inl ⟨count, by simp [unsortedEntries, countEntry, count]⟩

/-- An entry of a section is that of a listing, or it counts groups, or it says that there are
none. -/
theorem mem_sectionOf_cases {entry : Entry}
    (mem : entry ∈ (scene.sectionOf category listings).entries) :
    (∃ listing ∈ listings, entry = scene.groupEntry listing.1 listing.2) ∨
    (∃ count, entry = scene.additionalEntry category count) ∨
    entry = scene.placeholderEntry category := by
  have unsorted : entry ∈ scene.unsortedEntries category listings := mem_sortEntries.mp mem
  have ofGroup : entry ∈ scene.shownEntries listings →
      ∃ listing ∈ listings, entry = scene.groupEntry listing.1 listing.2 := by
    intro mem
    obtain ⟨listing, listed, rfl⟩ := List.mem_map.mp mem
    exact ⟨listing, List.mem_of_mem_filter listed, rfl⟩
  rcases scene.unsortedEntries_cases category listings with ⟨_, eq⟩ | ⟨_, _, eq⟩ | ⟨_, _, eq⟩
  · rw [eq, List.mem_append, List.mem_singleton] at unsorted
    rcases unsorted with group | rfl
    · exact .inl (ofGroup group)
    · exact .inr (.inl ⟨_, rfl⟩)
  · rw [eq] at unsorted
    exact .inl (ofGroup unsorted)
  · rw [eq, List.mem_singleton] at unsorted
    exact .inr (.inr unsorted)

theorem filter_group?_shownEntries (scene : Scene) (listings : List (Category × Descriptor)) :
    (scene.shownEntries listings).filter (·.group?.isSome) = scene.shownEntries listings := by
  refine List.filter_eq_self.mpr fun entry mem => ?_
  obtain ⟨listing, _, rfl⟩ := List.mem_map.mp mem
  rfl

theorem filterMap_count?_shownEntries (scene : Scene)
    (listings : List (Category × Descriptor)) :
    (scene.shownEntries listings).filterMap Entry.count? = [] := by
  refine List.filterMap_eq_nil_iff.mpr fun entry mem => ?_
  obtain ⟨listing, _, rfl⟩ := List.mem_map.mp mem
  exact count?_groupEntry _ _ _

/-- The key of the entry for a group is the name of the group. -/
theorem map_key_shownEntries (scene : Scene) (listings : List (Category × Descriptor)) :
    (scene.shownEntries listings).map (·.key) =
      (listings.filter (isShown scene.args.isSystem)).map listedName := by
  rw [shownEntries, List.map_map]
  rfl

/-- A section has an entry for each listing that the screen shows. -/
theorem groupEntries_sectionOf_perm (scene : Scene) (category : Category)
    (listings : List (Category × Descriptor)) :
    (scene.sectionOf category listings).groupEntries.Perm (scene.shownEntries listings) := by
  have unsorted : (scene.unsortedEntries category listings).filter (·.group?.isSome) =
      scene.shownEntries listings := by
    rcases scene.unsortedEntries_cases category listings with
      ⟨_, eq⟩ | ⟨_, _, eq⟩ | ⟨_, none, eq⟩
    · rw [eq, List.filter_append, filter_group?_shownEntries]
      simp
    · rw [eq, filter_group?_shownEntries]
    · rw [eq, none]
      simp
  rw [← unsorted]
  exact (sortEntries_perm _ _).filter _

/-- A section counts the listings that the screen does not show, if there are any, in one entry. -/
theorem counts_sectionOf (scene : Scene) (category : Category)
    (listings : List (Category × Descriptor)) :
    (scene.sectionOf category listings).counts =
      if scene.countOf listings = 0 then [] else [scene.countOf listings] := by
  have unsorted : (scene.unsortedEntries category listings).filterMap Entry.count? =
      if scene.countOf listings = 0 then [] else [scene.countOf listings] := by
    rcases scene.unsortedEntries_cases category listings with
      ⟨count, eq⟩ | ⟨none, _, eq⟩ | ⟨none, _, eq⟩
    · rw [eq, List.filterMap_append, filterMap_count?_shownEntries, if_neg (by omega)]
      simp
    · rw [eq, filterMap_count?_shownEntries, if_pos none]
    · rw [eq, if_pos none]
      simp
  have perm : (scene.sectionOf category listings).counts.Perm _ :=
    (sortEntries_perm _ _).filterMap Entry.count?
  rw [unsorted] at perm
  by_cases none : scene.countOf listings = 0
  · rw [if_pos none] at perm ⊢
    exact List.perm_nil.mp perm
  · rw [if_neg none] at perm ⊢
    exact List.perm_singleton.mp perm

end Scene

/-! ### All sections -/

/-- Whether a screen has a section for a category: there is none for groups to be asked for, if
nothing is listed there. -/
def Groups.hasSection (groups : Groups) (category : Category) : Bool :=
  category ≠ .ask || !(groups.get .ask).isEmpty

/-- The first listings that are shown in the section of a category. -/
def Groups.listingsIn (groups : Groups) (category : Category) : List (Category × Descriptor) :=
  groups.firstListings.filter (·.1.display = category)

theorem mem_sources_iff {source category : Category} :
    source ∈ Scene.sources category ↔ source.display = category := by
  simp [Scene.sources, Category.mem_all]

theorem hasSection_eq_false_iff {groups : Groups} {category : Category} :
    groups.hasSection category = false ↔
      category = .ask ∧ groups.listings (Scene.sources category) = [] := by
  have asked : Scene.sources .ask = [.ask] := rfl
  cases category <;> simp [Groups.hasSection, Groups.listings, asked]

theorem display_of_mem_listings {groups : Groups} {category : Category}
    {listing : Category × Descriptor}
    (mem : listing ∈ groups.listings (Scene.sources category)) :
    listing.1.display = category :=
  mem_sources_iff.mp (Groups.mem_listings.mp mem).1

namespace Scene

/-- The sections of some categories, given all at once. What each of them shows does not depend on
the categories before it but for the names that are listed there. -/
theorem sectionsFrom_eq (scene : Scene) (groups : Groups) (seen : List String)
    {categories : List Category} (distinct : categories.Nodup) :
    scene.sectionsFrom groups seen categories =
      (categories.filter groups.hasSection).map fun category =>
        scene.sectionOf category
          ((freshListings seen (categories.flatMap fun c => groups.listings (sources c))).filter
            (·.1.display = category)) := by
  induction categories generalizing seen with
  | nil => rfl
  | cons category rest ih =>
    obtain ⟨absent, distinct⟩ := List.nodup_cons.mp distinct
    rw [sectionsFrom, List.flatMap_cons]
    by_cases hidden : category = .ask ∧ groups.listings (sources category) = []
    · rw [if_pos hidden, hidden.2, List.nil_append, ih seen distinct,
        List.filter_cons_of_neg (by simp [hasSection_eq_false_iff.mpr hidden])]
    · have visible : groups.hasSection category = true := by
        rw [← Bool.not_eq_false, hasSection_eq_false_iff]
        exact hidden
      rw [if_neg hidden, List.filter_cons_of_pos visible, List.map_cons, freshListings_append]
      have own : ∀ listing ∈ freshListings seen (groups.listings (sources category)),
          listing.1.display = category := fun listing mem =>
        display_of_mem_listings (mem_of_mem_freshListings mem)
      refine List.cons_eq_cons.mpr ⟨?_, ?_⟩
      · -- The listings of the categories that follow are shown elsewhere.
        rw [List.filter_append, List.filter_eq_self.mpr (by simpa using own),
          List.filter_eq_nil_iff.mpr, List.append_nil]
        · exact congrArg (Section.mk category) (scene.entries_select category seen _)
        · intro listing mem
          obtain ⟨other, inRest, mem⟩ := List.mem_flatMap.mp (mem_of_mem_freshListings mem)
          rw [display_of_mem_listings mem, decide_eq_true_eq]
          rintro rfl
          exact absent inRest
      · rw [select_eq, ih _ distinct]
        refine List.map_congr_left fun other inRest => ?_
        have elsewhere : (freshListings seen (groups.listings (sources category))).filter
            (·.1.display = other) = [] := by
          refine List.filter_eq_nil_iff.mpr fun listing mem => ?_
          rw [own listing mem, decide_eq_true_eq]
          rintro rfl
          exact absent (List.mem_of_mem_filter inRest)
        rw [List.filter_append, elsewhere, List.nil_append]

/-- The sections of a screen: each is made of the groups whose first listing is shown there. -/
theorem sections_eq (scene : Scene) (groups : Groups) :
    scene.sections groups =
      (displayOrder.filter groups.hasSection).map fun category =>
        scene.sectionOf category (groups.listingsIn category) := by
  have all : (displayOrder.flatMap fun c => groups.listings (sources c)) =
      groups.listings Category.all := by
    simp [displayOrder, sources, Groups.listings, Category.all, Category.display]
  rw [sections, sectionsFrom_eq scene groups [] (by decide), all]
  rfl

end Scene

/-! ### What is shown and counted over all sections -/

/-- The entries for groups in all sections, each with the category of its section. -/
def groupEntries (sections : List Section) : List (Category × Entry) :=
  sections.flatMap fun shown => shown.groupEntries.map (shown.category, ·)

/-- The entry for a listing, with the category of the section that it is shown in. -/
def Scene.placedEntry (scene : Scene) (listing : Category × Descriptor) : Category × Entry :=
  (listing.1.display, scene.groupEntry listing.1 listing.2)

/-- The numbers that the sections of a category count. -/
def countsOf (sections : List Section) (category : Category) : List Nat :=
  (sections.filter (·.category = category)).flatMap Section.counts

/-- Elements that are sorted into pigeonholes by a key are all there, if there is a hole for each
key. -/
theorem flatMap_filter_perm {α κ : Type} [DecidableEq κ] (key : α → κ) {keys : List κ}
    (distinct : keys.Nodup) {elements : List α} (covered : ∀ a ∈ elements, key a ∈ keys) :
    (keys.flatMap fun k => elements.filter (key · = k)).Perm elements := by
  induction keys generalizing elements with
  | nil =>
    rw [List.eq_nil_iff_forall_not_mem.mpr fun a mem => List.not_mem_nil (covered a mem)]
    exact .nil
  | cons k rest ih =>
    obtain ⟨absent, distinct⟩ := List.nodup_cons.mp distinct
    have others : (rest.flatMap fun k' => elements.filter (key · = k')) =
        rest.flatMap fun k' => (elements.filter (!key · = k)).filter (key · = k') := by
      refine List.flatMap_congr fun k' mem => ?_
      rw [List.filter_filter]
      refine List.filter_congr fun a _ => ?_
      by_cases same : key a = k'
      · subst same
        have : key a ≠ k := fun e => absent (e ▸ mem)
        simp [this]
      · simp [same]
    have rest_perm : (rest.flatMap fun k' =>
        (elements.filter (!key · = k)).filter (key · = k')).Perm
          (elements.filter (!key · = k)) := by
      refine ih distinct fun a mem => ?_
      obtain ⟨mem, other⟩ := List.mem_filter.mp mem
      exact (List.mem_cons.mp (covered a mem)).resolve_left (by simpa using other)
    rw [List.flatMap_cons, others]
    exact (rest_perm.append_left _).trans (List.filter_append_perm _ _)

section All

variable {groups : Groups} {category : Category}

theorem nodup_sectionCategories (groups : Groups) :
    (Scene.displayOrder.filter groups.hasSection).Nodup :=
  (by decide : Scene.displayOrder.Nodup).filter _

theorem categories_sections (scene : Scene) (groups : Groups) :
    (scene.sections groups).map (·.category) = Scene.displayOrder.filter groups.hasSection := by
  rw [Scene.sections_eq, List.map_map]
  exact List.map_id _

/-- Every group that is listed has a section to be shown in. -/
theorem display_mem_sectionCategories {listing : Category × Descriptor}
    (mem : listing ∈ groups.firstListings) :
    listing.1.display ∈ Scene.displayOrder.filter groups.hasSection := by
  obtain ⟨source, descriptor⟩ := listing
  have listed : descriptor ∈ groups.get source :=
    (Groups.mem_listings.mp (mem_of_mem_freshListings mem)).2
  cases source with
  | ask =>
    simpa [Scene.displayOrder, Groups.hasSection, Category.display] using
      List.ne_nil_of_mem listed
  | _ => simp [Scene.displayOrder, Groups.hasSection, Category.display]

theorem display_of_mem_listingsIn {listing : Category × Descriptor}
    (mem : listing ∈ groups.listingsIn category) : listing.1.display = category :=
  of_decide_eq_true (List.mem_filter.mp mem).2

/-- A category without a section has no listings to be shown in it. -/
theorem listingsIn_eq_nil (hidden : category ∉ Scene.displayOrder.filter groups.hasSection) :
    groups.listingsIn category = [] := by
  refine List.eq_nil_iff_forall_not_mem.mpr fun listing mem => hidden ?_
  rw [← display_of_mem_listingsIn mem]
  exact display_mem_sectionCategories (List.mem_of_mem_filter mem)

/-- Over all sections, the entries for groups are those of the first listings that belong to the
screen, each in the section of its category. -/
theorem groupEntries_sections_perm (scene : Scene) (groups : Groups) :
    (groupEntries (scene.sections groups)).Perm
      ((groups.firstListings.filter (isShown scene.args.isSystem)).map scene.placedEntry) := by
  let shown := groups.firstListings.filter (isShown scene.args.isSystem)
  have inSection : ∀ category,
      (scene.shownEntries (groups.listingsIn category)).map (category, ·) =
        (shown.filter (·.1.display = category)).map scene.placedEntry := by
    intro category
    rw [Scene.shownEntries, Groups.listingsIn, List.filter_comm, List.map_map]
    refine List.map_congr_left fun listing mem => ?_
    have := of_decide_eq_true (List.mem_filter.mp mem).2
    simp [Scene.placedEntry, this]
  calc
    groupEntries (scene.sections groups) =
        (Scene.displayOrder.filter groups.hasSection).flatMap fun category =>
          (scene.sectionOf category (groups.listingsIn category)).groupEntries.map (category, ·) := by
      rw [groupEntries, Scene.sections_eq, List.flatMap_map]
      rfl
    _ ~ (Scene.displayOrder.filter groups.hasSection).flatMap fun category =>
          (shown.filter (·.1.display = category)).map scene.placedEntry := by
      refine List.Perm.flatMap_left _ fun category _ => ?_
      rw [← inSection]
      exact (scene.groupEntries_sectionOf_perm category _).map _
    _ = ((Scene.displayOrder.filter groups.hasSection).flatMap fun category =>
          shown.filter (·.1.display = category)).map scene.placedEntry := by
      rw [List.map_flatMap]
    _ ~ shown.map scene.placedEntry := by
      refine (flatMap_filter_perm _ (nodup_sectionCategories groups) fun listing mem => ?_).map _
      exact display_mem_sectionCategories (List.mem_of_mem_filter mem)

/-- The sections of a category count the first listings there that belong to the other screen, in
one entry. -/
theorem countsOf_sections (scene : Scene) (groups : Groups) (category : Category) :
    countsOf (scene.sections groups) category =
      if scene.countOf (groups.listingsIn category) = 0 then []
      else [scene.countOf (groups.listingsIn category)] := by
  have ofCategory : (scene.sections groups).filter (·.category = category) =
      ((Scene.displayOrder.filter groups.hasSection).filter (· = category)).map fun category =>
        scene.sectionOf category (groups.listingsIn category) := by
    rw [Scene.sections_eq, List.filter_map]
    rfl
  rw [countsOf, ofCategory, List.filter_eq]
  by_cases visible : category ∈ Scene.displayOrder.filter groups.hasSection
  · rw [List.count_eq_one_of_mem (nodup_sectionCategories groups) visible]
    simpa using scene.counts_sectionOf category _
  · rw [List.count_eq_zero_of_not_mem visible, listingsIn_eq_nil visible]
    rfl

/-- What is counted over all sections is one for each first listing that belongs to the other
screen. -/
theorem sum_counts_sections (scene : Scene) (groups : Groups) :
    ((scene.sections groups).flatMap Section.counts).sum =
      (groups.firstListings.filter (isCounted scene.args.isSystem)).length := by
  let counted := groups.firstListings.filter (isCounted scene.args.isSystem)
  have ofCategories : ∀ categories : List Category,
      ((categories.map fun category =>
        scene.sectionOf category (groups.listingsIn category)).flatMap Section.counts).sum =
        (categories.flatMap fun category => counted.filter (·.1.display = category)).length := by
    intro categories
    induction categories with
    | nil => rfl
    | cons category rest ih =>
      have one : (scene.sectionOf category (groups.listingsIn category)).counts.sum =
          (counted.filter (·.1.display = category)).length := by
        rw [scene.counts_sectionOf, List.filter_comm]
        split
        · exact Eq.symm ‹_›
        · exact List.sum_singleton
      rw [List.map_cons, List.flatMap_cons, List.sum_append, one, ih, List.flatMap_cons,
        List.length_append]
  rw [Scene.sections_eq, ofCategories]
  refine (flatMap_filter_perm _ (nodup_sectionCategories groups) fun listing mem => ?_).length_eq
  exact display_mem_sectionCategories (List.mem_of_mem_filter mem)

end All

end PermissionScreen
