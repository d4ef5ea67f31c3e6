import Mathlib.Data.List.Forall2
import PermissionScreen.Proofs.Screen.Layout

/-!
No group is lost and none is shown twice.

What becomes of a group depends on its first listing alone, however often it is listed and whatever
its other listings say. A screen shows the groups of its own kind; the screen of the platform's
groups counts the others, which its user finds on the second screen.

* `covers_sections`: a group of the screen has one entry, in the section and with the data of its
  first listing; another one adds one to what that section counts, or is left out.
* `complement_additional`: the two screens of an app have the same sections, the first counts what
  the second shows, and together they show each group once.
-/

namespace PermissionScreen

variable {scene : Scene} {groups : Groups} {name : String}

/-- The names that are counted in the section of a category: those whose first listing is shown
there and belongs to the other screen. -/
def Groups.countedNames (groups : Groups) (onSystem : Bool) (category : Category) :
    Finset String :=
  groups.names.filter fun name =>
    (groups.firstListing? name).any fun listing =>
      listing.1.display = category && isCounted onSystem listing

/-- The number that a section of the platform's screen counts is the number of names that are
counted there. -/
theorem countOf_listingsIn (scene : Scene) (groups : Groups) (category : Category) :
    scene.countOf (groups.listingsIn category) =
      (groups.countedNames scene.args.isSystem category).card := by
  rw [Scene.countOf, Groups.listingsIn, List.filter_filter, groups.length_filter_firstListings]
  simp only [Groups.countedNames, Bool.and_comm]

/-- The entries for one name: there is one if the first listing of the name belongs to the
screen. -/
theorem groupEntries_named (scene : Scene) (groups : Groups) (name : String) :
    (groupEntries (scene.sections groups)).filter (·.2.group? = some name) =
      (((groups.firstListing? name).filter (isShown scene.args.isSystem)).map
        scene.placedEntry).toList := by
  have perm := (groupEntries_sections_perm scene groups).filter (·.2.group? = some name)
  have named : ((groups.firstListings.filter (isShown scene.args.isSystem)).map
      scene.placedEntry).filter (·.2.group? = some name) =
        (((groups.firstListing? name).filter (isShown scene.args.isSystem)).map
          scene.placedEntry).toList := by
    have ofName : (fun placed : Category × Entry => decide (placed.2.group? = some name)) ∘
        scene.placedEntry = fun listing => decide (listedName listing = name) := by
      funext listing
      simp [Scene.placedEntry]
    rw [List.filter_map, ofName, List.filter_comm, groups.filter_firstListings_name]
    cases groups.firstListing? name with
    | none => rfl
    | some listing =>
      cases shown : isShown scene.args.isSystem listing <;> simp [Option.filter, shown]
  rw [named] at perm
  cases first : (groups.firstListing? name).filter (isShown scene.args.isSystem) with
  | none => simpa [first] using perm
  | some listing => simpa [first] using perm

/-- The platform's screen counts what it does not show. -/
theorem isCounted_true : isCounted true = fun listing => !isShown true listing := by
  funext listing
  simp [isCounted, isShown]

/-- The second screen shows what the platform's screen does not show. -/
theorem isShown_false : isShown false = fun listing => !isShown true listing := by
  funext listing
  simp [isShown]

/-! ### Each group once -/

/-- Sections that show or count each group once, by its first listing. -/
structure Covers (args : Args) (groups : Groups) (sections : List Section) : Prop where
  /-- A group of the screen has one entry over all sections. -/
  shown : ∀ {name source descriptor}, groups.firstListing? name = some (source, descriptor) →
    descriptor.isSystem = args.isSystem →
      ∃ entry,
        (groupEntries sections).filter (·.2.group? = some name) = [(source.display, entry)] ∧
          entry.kind = .group name source descriptor.subtitle
  /-- A group of the other screen has no entry. -/
  hidden : ∀ {name source descriptor}, groups.firstListing? name = some (source, descriptor) →
    descriptor.isSystem ≠ args.isSystem →
      (groupEntries sections).filter (·.2.group? = some name) = []
  /-- An entry for a group comes from a first listing. -/
  listed : ∀ {placed name}, placed ∈ groupEntries sections → placed.2.group? = some name →
    ∃ source descriptor, groups.firstListing? name = some (source, descriptor) ∧
      descriptor.isSystem = args.isSystem
  /-- Where names are counted, one entry counts them all, each as one. -/
  counted : ∀ category,
    countsOf sections category =
      if groups.countedNames args.isSystem category = ∅ then []
      else [(groups.countedNames args.isSystem category).card]
  /-- On the platform's screen every name is shown or counted. -/
  total : args.isSystem = true →
    (groupEntries sections).length + (sections.flatMap Section.counts).sum = groups.names.card

/-- **Each group once.** Whatever is listed, and however often, no group is lost and none is shown
twice. -/
theorem covers_sections (scene : Scene) (groups : Groups) :
    Covers scene.args groups (scene.sections groups) where
  shown {name source descriptor} first belongs := by
    refine ⟨scene.groupEntry source descriptor, ?_, ?_⟩
    · rw [groupEntries_named, first]
      simp [isShown, belongs, Scene.placedEntry]
    · rw [← Groups.listedName_of_firstListing? first]
      rfl
  hidden {name source descriptor} first foreign := by
    rw [groupEntries_named, first]
    simp [isShown, foreign]
  listed {placed name} mem ofName := by
    obtain ⟨⟨source, descriptor⟩, first, rfl⟩ :=
      List.mem_map.mp ((groupEntries_sections_perm scene groups).mem_iff.mp mem)
    obtain ⟨first, belongs⟩ := List.mem_filter.mp first
    obtain rfl : descriptor.group = name := Option.some.inj ofName
    exact ⟨source, descriptor, Groups.mem_firstListings_iff.mp first, of_decide_eq_true belongs⟩
  counted category := by
    rw [countsOf_sections, countOf_listingsIn]
    simp only [Finset.card_eq_zero]
  total system := by
    rw [(groupEntries_sections_perm scene groups).length_eq, List.length_map,
      sum_counts_sections, system, isCounted_true, ← List.length_append,
      (List.filter_append_perm _ _).length_eq, groups.length_firstListings]

/-! ### The two screens of an app -/

/-- The second screen of the same app, for the groups that are not the platform's. -/
def Scene.additional (scene : Scene) : Scene := { scene with args := scene.args.additional }

/-- The names of the groups that sections show. -/
def shownNames (sections : List Section) : Finset String :=
  ((groupEntries sections).filterMap (·.2.group?)).toFinset

/-- The number that a section counts; zero if no entry of it counts. -/
def Section.additionalCount (shown : Section) : Nat := shown.counts.headD 0

/-- Sections of two screens that belong together: what the first counts the second shows. -/
structure Complement (groups : Groups) (first second : List Section) : Prop where
  categories : first.map (·.category) = second.map (·.category)
  counts : List.Forall₂ (fun shown other => shown.additionalCount = other.groupEntries.length)
    first second
  noCount : ∀ shown ∈ second, ∀ entry ∈ shown.entries, entry.isAdditional = false
  disjoint : Disjoint (shownNames first) (shownNames second)
  union : shownNames first ∪ shownNames second = groups.names

theorem isAdditional_eq (entry : Entry) : entry.isAdditional = entry.count?.isSome := by
  unfold Entry.isAdditional Entry.count?
  cases entry.kind <;> rfl

section Pair

variable (scene : Scene) (category : Category) (listings : List (Category × Descriptor))

/-- Of the same listings the platform's screen counts as many as the second screen shows. -/
theorem countOf_eq_length_shownEntries (system : scene.args.isSystem = true) :
    scene.countOf listings = (scene.additional.shownEntries listings).length := by
  have other : scene.additional.args.isSystem = false := rfl
  rw [Scene.countOf, Scene.shownEntries, List.length_map, system, other, isCounted_true,
    isShown_false]

/-- What a section of the platform's screen counts is the number of the entries for groups in the
same section of the second screen. -/
theorem additionalCount_sectionOf (system : scene.args.isSystem = true) :
    (scene.sectionOf category listings).additionalCount =
      (scene.additional.sectionOf category listings).groupEntries.length := by
  rw [(scene.additional.groupEntries_sectionOf_perm category listings).length_eq,
    ← countOf_eq_length_shownEntries scene listings system, Section.additionalCount,
    Scene.counts_sectionOf]
  split
  · exact Eq.symm ‹_›
  · rfl

/-- The second screen counts nothing. -/
theorem counts_additional : (scene.additional.sectionOf category listings).counts = [] := by
  have other : scene.additional.args.isSystem = false := rfl
  have none : scene.additional.countOf listings = 0 := by
    simp [Scene.countOf, other, isCounted]
  rw [Scene.counts_sectionOf, if_pos none]

end Pair

/-- A screen shows the names whose first listing belongs to it. -/
theorem shownNames_sections (scene : Scene) (groups : Groups) :
    shownNames (scene.sections groups) =
      groups.names.filter fun name =>
        (groups.firstListing? name).any (isShown scene.args.isSystem) := by
  have perm := (groupEntries_sections_perm scene groups).filterMap (·.2.group?)
  rw [List.filterMap_map] at perm
  rw [shownNames, List.toFinset_eq_of_perm _ _ perm, ← groups.toFinset_names_filter,
    ← List.filterMap_eq_map]
  rfl

/-- **Two screens, all groups.** The screen of the platform's groups and the one that it leads to
have the same sections. The first counts in each section what the second shows there, and together
they show every group, each on one of them. -/
theorem complement_additional (scene : Scene) (groups : Groups)
    (system : scene.args.isSystem = true) :
    Complement groups (scene.sections groups) (scene.additional.sections groups) where
  categories := by
    rw [categories_sections, categories_sections]
  counts := by
    rw [Scene.sections_eq, Scene.sections_eq, List.forall₂_map_left_iff,
      List.forall₂_map_right_iff, List.forall₂_same]
    intro category _
    exact additionalCount_sectionOf scene category (groups.listingsIn category) system
  noCount shown mem entry inSection := by
    rw [Scene.sections_eq] at mem
    obtain ⟨category, _, rfl⟩ := List.mem_map.mp mem
    have none := counts_additional scene category (groups.listingsIn category)
    rw [isAdditional_eq, List.filterMap_eq_nil_iff.mp none entry inSection]
    rfl
  disjoint := by
    rw [shownNames_sections, shownNames_sections, Finset.disjoint_filter]
    intro name _ first second
    obtain ⟨listing, found, belongs⟩ := (Option.any_eq_true _ _).mp first
    have other : isShown false listing = true := by rwa [found] at second
    rw [system] at belongs
    simp [isShown_false, belongs] at other
  union := by
    rw [shownNames_sections, shownNames_sections, ← Finset.filter_or]
    refine Finset.filter_true_of_mem fun name listed => ?_
    obtain ⟨listing, found⟩ := Option.isSome_iff_exists.mp (Groups.mem_names_iff.mp listed)
    have shown : scene.additional.args.isSystem = false := rfl
    rw [found, shown, system, isShown_false]
    cases belongs : isShown true listing <;> simp [belongs]

/-- Groups of which one is listed twice: as an app's and allowed, then as the platform's and
denied. -/
def conflictingGroups : Groups :=
  (Groups.empty.set .allowed [⟨"camera", .plain, true⟩, ⟨"store", .allFiles, false⟩]).set .denied
    [⟨"store", .plain, true⟩, ⟨"phone", .plain, true⟩]

/-- The platform's screen of an app, without any recorded access. -/
def bareScene : Scene := ⟨{}, Args.ofPackage "app" 0 1, Records.empty, 0⟩

theorem complement_additional_conflictingGroups :
    bareScene.args.isSystem = true ∧
      Complement conflictingGroups (bareScene.sections conflictingGroups)
        (bareScene.additional.sections conflictingGroups) :=
  ⟨rfl, complement_additional bareScene conflictingGroups rfl⟩

end PermissionScreen
