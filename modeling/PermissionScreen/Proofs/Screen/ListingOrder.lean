import PermissionScreen.Proofs.Screen.Shape

/-!
The order in which groups are listed.

Two things in the making of a screen look at this order: of two listings of one name the first one
counts, and groups with the same title stay as they are listed. Where no name is listed twice and no
section shows two groups with one label, neither of them has anything to decide. Then going through
the listings keeps all of them (`freshListings_eq_self`), sorting leaves no choice
(`sortEntries_eq_of_perm`), and the sections are the same for any order
(`listing_order_irrelevant`).
-/

namespace PermissionScreen

open scoped List

/-! ### Listings in another order -/

/-- Listings of names that are all new are all kept. -/
theorem freshListings_eq_self {seen : List String} {listings : List (Category × Descriptor)}
    (new : ∀ listing ∈ listings, listedName listing ∉ seen)
    (distinct : (listings.map listedName).Nodup) : freshListings seen listings = listings := by
  induction listings generalizing seen with
  | nil => rfl
  | cons first rest ih =>
    obtain ⟨once, distinct⟩ := List.nodup_cons.mp distinct
    rw [freshListings_cons_of_not_mem (new first List.mem_cons_self), ih ?_ distinct]
    intro listing mem old
    rcases List.mem_cons.mp old with same | old
    · exact once (same ▸ List.mem_map_of_mem mem)
    · exact new listing (List.mem_cons_of_mem _ mem) old

namespace Groups

variable {groups others : Groups}

/-- The same groups in each category, in some other order. -/
def Rearranges (groups others : Groups) : Prop :=
  ∀ category, groups.get category ~ others.get category

theorem Rearranges.listings (rearranged : groups.Rearranges others) (categories : List Category) :
    groups.listings categories ~ others.listings categories :=
  List.Perm.flatMap_left _ fun category _ => (rearranged category).map _

theorem Rearranges.hasSection_eq (rearranged : groups.Rearranges others) :
    groups.hasSection = others.hasSection := by
  funext category
  rw [hasSection, hasSection, (rearranged .ask).isEmpty_eq]

/-- What is listed to be shown in one section. -/
theorem listings_sources (groups : Groups) (category : Category) :
    groups.listings (Scene.sources category) =
      (groups.listings Category.all).filter (·.1.display = category) := by
  rw [Groups.listings, Groups.listings, List.filter_flatMap, Scene.sources]
  induction Category.all with
  | nil => rfl
  | cons source rest ih =>
    by_cases here : source.display = category
    · rw [List.filter_cons_of_pos (by simpa using here), List.flatMap_cons, List.flatMap_cons, ih,
        List.filter_eq_self.mpr]
      simp [here]
    · rw [List.filter_cons_of_neg (by simpa using here), List.flatMap_cons, ih,
        List.filter_eq_nil_iff.mpr, List.nil_append]
      simp [here]

/-- Where no name is listed twice, a section is made of all that is listed for it. -/
theorem listingsIn_eq (distinct : ((groups.listings Category.all).map listedName).Nodup)
    (category : Category) :
    groups.listingsIn category = groups.listings (Scene.sources category) := by
  rw [listingsIn, firstListings, freshListings_eq_self (by simp) distinct, listings_sources]

end Groups

/-! ### Sorting without a choice -/

/-- Where the order tells all entries apart, it does not matter in which order they are when they
are sorted. -/
theorem sortEntries_eq_of_perm {alphabet : Alphabet} {entries others : List Entry}
    (perm : entries ~ others)
    (apart : ∀ left ∈ entries, ∀ right ∈ entries,
      Entry.compare alphabet left right = .eq → left = right) :
    sortEntries alphabet entries = sortEntries alphabet others := by
  have sorts := stablySorts_sortEntries alphabet entries
  have sorts' := stablySorts_sortEntries alphabet others
  have same : sortEntries alphabet entries ~ sortEntries alphabet others :=
    sorts.perm.trans (perm.trans sorts'.perm.symm)
  refine same.eq_of_pairwise (fun left right inFirst inSecond le ge => ?_) sorts.ordered
    sorts'.ordered
  have inFirst : left ∈ entries := sorts.perm.mem_iff.mp inFirst
  have inSecond : right ∈ entries := perm.mem_iff.mpr (sorts'.perm.mem_iff.mp inSecond)
  exact apart left inFirst right inSecond (Std.OrientedCmp.isLE_antisymm le ge)

namespace Scene

variable {scene : Scene} {category : Category} {listings others : List (Category × Descriptor)}

/-- The labels of the listings that a screen shows. -/
def shownLabels (scene : Scene) (listings : List (Category × Descriptor)) : List String :=
  (listings.filter (isShown scene.args.isSystem)).map (·.2.label)

theorem map_title_shownEntries (scene : Scene) (listings : List (Category × Descriptor)) :
    (scene.shownEntries listings).map (·.title) = scene.shownLabels listings := by
  rw [shownEntries, List.map_map]
  rfl

theorem countOf_eq_of_perm (perm : listings ~ others) :
    scene.countOf listings = scene.countOf others :=
  (perm.filter _).length_eq

/-- The entries of a section are the same for any order of its listings, in another order. -/
theorem unsortedEntries_perm (perm : listings ~ others) :
    scene.unsortedEntries category listings ~ scene.unsortedEntries category others := by
  have shown : scene.shownEntries listings ~ scene.shownEntries others :=
    (perm.filter _).map _
  have all : scene.shownEntries listings ++ scene.countEntry category listings ~
      scene.shownEntries others ++ scene.countEntry category others := by
    rw [countEntry, countEntry, countOf_eq_of_perm perm]
    exact shown.append_right _
  rw [unsortedEntries, unsortedEntries, all.isEmpty_eq]
  split
  · exact .rfl
  · exact all

/-- Labels that are distinct tell all entries of a section apart: the entry that counts groups, or
says that there are none, is the only one of its kind. -/
theorem eq_of_compare_unsortedEntries (distinct : (scene.shownLabels listings).Nodup)
    {left right : Entry} (inFirst : left ∈ scene.unsortedEntries category listings)
    (inSecond : right ∈ scene.unsortedEntries category listings)
    (equal : Entry.compare .unicode left right = .eq) : left = right := by
  obtain ⟨kind, title⟩ := (Entry.compare_eq_eq_iff _ _ _).mp equal
  have shows : ∀ entry ∈ scene.shownEntries listings, entry.isAdditional = false := by
    intro entry mem
    obtain ⟨listing, _, rfl⟩ := List.mem_map.mp mem
    rfl
  have byTitle : left ∈ scene.shownEntries listings → right ∈ scene.shownEntries listings →
      left = right := by
    rw [← map_title_shownEntries] at distinct
    intro first second
    exact List.inj_on_of_nodup_map distinct first second title
  rcases scene.unsortedEntries_cases category listings with ⟨_, eq⟩ | ⟨_, _, eq⟩ | ⟨_, _, eq⟩
  · rw [eq, List.mem_append, List.mem_singleton] at inFirst inSecond
    rcases inFirst with first | rfl <;> rcases inSecond with second | rfl
    · exact byTitle first second
    · exact absurd ((shows left first).symm.trans kind) Bool.false_ne_true
    · exact absurd ((shows right second).symm.trans kind.symm) Bool.false_ne_true
    · rfl
  · rw [eq] at inFirst inSecond
    exact byTitle inFirst inSecond
  · rw [eq, List.mem_singleton] at inFirst inSecond
    rw [inFirst, inSecond]

/-- A section is the same for any order of its listings, if their labels are distinct. -/
theorem sectionOf_eq_of_perm (perm : listings ~ others)
    (distinct : (scene.shownLabels listings).Nodup) :
    scene.sectionOf category listings = scene.sectionOf category others := by
  rw [sectionOf, sectionOf, sortEntries_eq_of_perm (unsortedEntries_perm perm)]
  intro left inFirst right inSecond
  exact eq_of_compare_unsortedEntries distinct inFirst inSecond

end Scene

/-- Groups whose order says nothing: no name is listed twice, and in no section do two groups that
the screen shows have the same label. -/
structure Scene.TellsApart (scene : Scene) (groups : Groups) : Prop where
  names : ((groups.listings Category.all).map listedName).Nodup
  labels : ∀ category, (scene.shownLabels (groups.listings (sources category))).Nodup

/-- **The order of the lists.** If the groups can be told apart, a screen shows the same in whatever
order each category lists them, and whether an empty category is listed at all. -/
theorem listing_order_irrelevant (scene : Scene) {groups others : Groups}
    (rearranged : groups.Rearranges others) (apart : scene.TellsApart groups) :
    scene.sections groups = scene.sections others := by
  have names : ((others.listings Category.all).map listedName).Nodup :=
    ((rearranged.listings _).map _).nodup_iff.mp apart.names
  rw [Scene.sections_eq, Scene.sections_eq, rearranged.hasSection_eq]
  refine List.map_congr_left fun category _ => ?_
  rw [Groups.listingsIn_eq apart.names, Groups.listingsIn_eq names]
  exact Scene.sectionOf_eq_of_perm (rearranged.listings _) (apart.labels category)

/-- Groups of three categories, the first two of which are shown together. -/
def listedGroups : Groups :=
  ((Groups.empty.set .allowed [⟨"camera", .plain, true⟩, ⟨"store", .plain, false⟩]).set
    .allowedForeground [⟨"place", .foregroundOnly, true⟩, ⟨"Camera", .plain, true⟩]).set
      .denied [⟨"phone", .plain, true⟩]

/-- The same groups the other way round. A category without groups is listed, too. -/
def relistedGroups : Groups :=
  (((Groups.empty.set .allowed [⟨"store", .plain, false⟩, ⟨"camera", .plain, true⟩]).set
    .allowedForeground [⟨"Camera", .plain, true⟩, ⟨"place", .foregroundOnly, true⟩]).set
      .ask []).set .denied [⟨"phone", .plain, true⟩]

theorem listing_order_irrelevant_relistedGroups :
    listedGroups.Rearranges relistedGroups ∧ bareScene.TellsApart listedGroups ∧
      bareScene.sections listedGroups = bareScene.sections relistedGroups := by
  have rearranged : listedGroups.Rearranges relistedGroups := by
    intro category
    cases category with
    | allowed => exact List.Perm.swap _ _ _
    | allowedForeground => exact List.Perm.swap _ _ _
    | ask => exact .rfl
    | denied => exact .rfl
  have apart : bareScene.TellsApart listedGroups := by
    refine ⟨by decide, fun category => ?_⟩
    cases category <;> decide
  exact ⟨rearranged, apart, listing_order_irrelevant bareScene rearranged apart⟩

end PermissionScreen
