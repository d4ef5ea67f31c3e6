import PermissionScreen.Proofs.Screen.Coverage

/-!
The keys of a screen's entries.

An entry for a group has the name of the group as its key, one that counts groups has a title with
the name of its category, and one that stands in an empty section has what it says. These are three
kinds of texts, and nothing keeps them apart: a group can be called like another entry's key, and
sections that are empty can say the same. `nodup_keys_iff` says exactly when the keys of a screen are
distinct, and `duplicate_keys` that they need not be.
-/

namespace PermissionScreen

open scoped List

/-- The keys of all entries. -/
def entryKeys (sections : List Section) : List String :=
  sections.flatMap fun shown => shown.entries.map (·.key)

/-- The categories that a screen has a section for. -/
def Groups.sectionCategories (groups : Groups) : List Category :=
  Scene.displayOrder.filter groups.hasSection

namespace Scene

variable (scene : Scene) (groups : Groups) (category : Category)
  (listings : List (Category × Descriptor))

/-- The key of the entry that counts groups in the section of a category. -/
def countKey : String := scene.config.messages.text .additionalPermissions ++ category.name

/-- The key of the entry that stands in the section of a category if that is empty. -/
def emptyKey : String := scene.config.messages.emptySection (category = .denied)

/-- Whether a screen neither shows nor counts any of some listings. -/
def passesOver : Bool :=
  listings.all fun listing =>
    !isShown scene.args.isSystem listing && !isCounted scene.args.isSystem listing

/-- The categories in whose section groups are counted. -/
def countingCategories : List Category :=
  groups.sectionCategories.filter fun category =>
    (groups.listingsIn category).any (isCounted scene.args.isSystem)

/-- The categories whose section is empty, although groups may be listed there. -/
def emptyCategories : List Category :=
  groups.sectionCategories.filter fun category => scene.passesOver (groups.listingsIn category)

/-- The names of the groups that have an entry. -/
def entryNames : List String :=
  (groups.firstListings.filter (isShown scene.args.isSystem)).map listedName

/-! ### The keys of one section -/

theorem countOf_pos_iff :
    0 < scene.countOf listings ↔ listings.any (isCounted scene.args.isSystem) := by
  rw [countOf, List.length_pos_iff_exists_mem, List.any_eq_true]
  simp only [List.mem_filter]

theorem passesOver_iff :
    scene.passesOver listings ↔
      scene.countOf listings = 0 ∧ scene.shownEntries listings = [] := by
  rw [passesOver, countOf, shownEntries, List.length_eq_zero_iff, List.map_eq_nil_iff,
    List.filter_eq_nil_iff, List.filter_eq_nil_iff, List.all_eq_true]
  simp only [Bool.and_eq_true, Bool.not_eq_true', Bool.not_eq_true]
  exact ⟨fun h => ⟨fun listing mem => (h listing mem).2, fun listing mem => (h listing mem).1⟩,
    fun h listing mem => ⟨h.2 listing mem, h.1 listing mem⟩⟩

/-- The keys of a section: the names of the groups that it shows, and that of the entry that counts
groups or stands alone. -/
theorem keys_sectionOf_perm :
    (scene.sectionOf category listings).entries.map (·.key) ~
      (listings.filter (isShown scene.args.isSystem)).map listedName ++
        ((if listings.any (isCounted scene.args.isSystem) then [scene.countKey category] else []) ++
          if scene.passesOver listings then [scene.emptyKey category] else []) := by
  have unsorted : (scene.unsortedEntries category listings).map (·.key) =
      (scene.shownEntries listings).map (·.key) ++
        ((if listings.any (isCounted scene.args.isSystem) then [scene.countKey category] else []) ++
          if scene.passesOver listings then [scene.emptyKey category] else []) := by
    have counts := scene.countOf_pos_iff listings
    have empty := scene.passesOver_iff listings
    rcases scene.unsortedEntries_cases category listings with
      ⟨count, eq⟩ | ⟨noCount, groups, eq⟩ | ⟨noCount, noGroups, eq⟩
    · rw [eq, if_pos (counts.mp count), if_neg (by rw [empty]; omega), List.map_append]
      rfl
    · rw [eq, if_neg (by rw [← counts]; omega), if_neg fun h => groups (empty.mp h).2]
      simp
    · rw [eq, if_neg (by rw [← counts]; omega), if_pos (empty.mpr ⟨noCount, noGroups⟩), noGroups]
      rfl
  rw [← map_key_shownEntries, ← unsorted]
  exact (sortEntries_perm _ _).map _

end Scene

/-! ### The keys of all sections -/

theorem flatMap_ite_singleton {α β : Type} (p : α → Bool) (f : α → β) (elements : List α) :
    (elements.flatMap fun a => if p a then [f a] else []) = (elements.filter p).map f := by
  induction elements with
  | nil => rfl
  | cons a rest ih =>
    rw [List.flatMap_cons, ih]
    cases holds : p a <;> simp [holds]

/-- The first listings that satisfy a test are those of all sections together. -/
theorem flatMap_listingsIn_perm (groups : Groups) (test : Category × Descriptor → Bool) :
    (groups.sectionCategories.flatMap fun category => (groups.listingsIn category).filter test) ~
      groups.firstListings.filter test := by
  have inSection : ∀ category, (groups.listingsIn category).filter test =
      (groups.firstListings.filter test).filter (·.1.display = category) :=
    fun _ => List.filter_comm _ _ _
  rw [List.flatMap_congr fun category _ => inSection category]
  exact flatMap_filter_perm _ (nodup_sectionCategories groups) fun listing mem =>
    display_mem_sectionCategories (List.mem_of_mem_filter mem)

/-- The keys of a screen: the names of the groups that it shows, and those of the entries that count
groups or stand alone. -/
theorem entryKeys_sections_perm (scene : Scene) (groups : Groups) :
    entryKeys (scene.sections groups) ~
      scene.entryNames groups ++
        ((scene.countingCategories groups).map scene.countKey ++
          (scene.emptyCategories groups).map scene.emptyKey) := by
  let categories := groups.sectionCategories
  let names := fun category : Category =>
    ((groups.listingsIn category).filter (isShown scene.args.isSystem)).map listedName
  let counts := fun category : Category =>
    if (groups.listingsIn category).any (isCounted scene.args.isSystem) then
      [scene.countKey category]
    else []
  let empty := fun category : Category =>
    if scene.passesOver (groups.listingsIn category) then [scene.emptyKey category] else []
  have allNames : categories.flatMap names ~ scene.entryNames groups := by
    rw [← List.map_flatMap]
    exact (flatMap_listingsIn_perm groups (isShown scene.args.isSystem)).map listedName
  have allCounts : categories.flatMap counts =
      (scene.countingCategories groups).map scene.countKey := flatMap_ite_singleton _ _ _
  have allEmpty : categories.flatMap empty =
      (scene.emptyCategories groups).map scene.emptyKey := flatMap_ite_singleton _ _ _
  calc
    entryKeys (scene.sections groups) =
        categories.flatMap fun category =>
          (scene.sectionOf category (groups.listingsIn category)).entries.map (·.key) := by
      rw [entryKeys, Scene.sections_eq, List.flatMap_map]
      rfl
    _ ~ categories.flatMap fun category => names category ++ (counts category ++ empty category) :=
      List.Perm.flatMap_left _ fun category _ =>
        scene.keys_sectionOf_perm category (groups.listingsIn category)
    _ ~ categories.flatMap names ++ categories.flatMap fun category =>
          counts category ++ empty category :=
      (List.flatMap_append_perm _ _ _).symm
    _ ~ categories.flatMap names ++ (categories.flatMap counts ++ categories.flatMap empty) :=
      (List.flatMap_append_perm _ _ _).symm.append_left _
    _ ~ _ := by
      rw [allCounts, allEmpty]
      exact allNames.append_right _

/-! ### Distinct keys -/

/-- The keys of a screen's entries are kept apart: those of different kinds, and those of empty
sections. -/
structure KeysApart (scene : Scene) (groups : Groups) : Prop where
  /-- Empty sections do not say the same. -/
  empty : ∀ category ∈ scene.emptyCategories groups, ∀ other ∈ scene.emptyCategories groups,
    scene.emptyKey category = scene.emptyKey other → category = other
  /-- No empty section says what is the key of an entry that counts. -/
  countEmpty : ∀ counting ∈ scene.countingCategories groups,
    ∀ empty ∈ scene.emptyCategories groups, scene.countKey counting ≠ scene.emptyKey empty
  /-- No group that is shown is called like an entry that counts. -/
  nameCount : ∀ name ∈ shownNames (scene.sections groups),
    ∀ counting ∈ scene.countingCategories groups, name ≠ scene.countKey counting
  /-- No group that is shown is called what an empty section says. -/
  nameEmpty : ∀ name ∈ shownNames (scene.sections groups),
    ∀ empty ∈ scene.emptyCategories groups, name ≠ scene.emptyKey empty

theorem mem_shownNames_iff {scene : Scene} {groups : Groups} {name : String} :
    name ∈ shownNames (scene.sections groups) ↔ name ∈ scene.entryNames groups := by
  rw [shownNames_sections, ← Groups.toFinset_names_filter, List.mem_toFinset]
  rfl

/-- Entries that count have different keys in different sections. -/
theorem Scene.countKey_injective (scene : Scene) : Function.Injective scene.countKey := by
  intro category other same
  exact Category.name_injective ((String.append_right_inj _).mp same)

/-- **Distinct keys.** The keys of a screen's entries are distinct exactly if those of different
kinds are kept apart and the empty sections say different things. -/
theorem nodup_keys_iff (scene : Scene) (groups : Groups) :
    (entryKeys (scene.sections groups)).Nodup ↔ KeysApart scene groups := by
  have names : (scene.entryNames groups).Nodup :=
    groups.nodup_names_firstListings.sublist (List.filter_sublist.map _)
  have visible := nodup_sectionCategories groups
  have counts : ((scene.countingCategories groups).map scene.countKey).Nodup :=
    (visible.filter _).map scene.countKey_injective
  have empty : ((scene.emptyCategories groups).map scene.emptyKey).Nodup ↔ _ :=
    List.nodup_map_iff_inj_on (visible.filter _)
  rw [(entryKeys_sections_perm scene groups).nodup_iff, List.nodup_append, List.nodup_append, empty]
  constructor
  · rintro ⟨-, ⟨-, empty, countEmpty⟩, name⟩
    refine ⟨empty, fun counting mem other mem' => ?_, fun name' mem counting mem' => ?_,
      fun name' mem empty mem' => ?_⟩
    · exact countEmpty _ (List.mem_map_of_mem mem) _ (List.mem_map_of_mem mem')
    · exact name name' (mem_shownNames_iff.mp mem) _
        (List.mem_append_left _ (List.mem_map_of_mem mem'))
    · exact name name' (mem_shownNames_iff.mp mem) _
        (List.mem_append_right _ (List.mem_map_of_mem mem'))
  · intro apart
    refine ⟨names, ⟨counts, apart.empty, ?_⟩, ?_⟩
    · intro key mem key' mem'
      obtain ⟨counting, counts, rfl⟩ := List.mem_map.mp mem
      obtain ⟨empty, isEmpty, rfl⟩ := List.mem_map.mp mem'
      exact apart.countEmpty counting counts empty isEmpty
    · intro name mem key mem'
      have shown := mem_shownNames_iff.mpr mem
      rcases List.mem_append.mp mem' with mem' | mem'
      · obtain ⟨counting, counts, rfl⟩ := List.mem_map.mp mem'
        exact apart.nameCount name shown counting counts
      · obtain ⟨empty, isEmpty, rfl⟩ := List.mem_map.mp mem'
        exact apart.nameEmpty name shown empty isEmpty

/-- Groups of which one is to be asked for, a platform group. -/
def askedGroups : Groups := Groups.empty.set .ask [⟨"camera", .plain, true⟩]

/-- On the second screen of an app nothing is shown of these, and the first two sections say the
same. -/
theorem duplicate_keys :
    ¬ ∀ (scene : Scene) (groups : Groups), (entryKeys (scene.sections groups)).Nodup := by
  intro distinct
  have keys := entryKeys_sections_perm bareScene.additional askedGroups
  have twice := keys.nodup_iff.mp (distinct bareScene.additional askedGroups)
  revert twice
  decide

end PermissionScreen
