import Mathlib.Data.Finset.Card
import Mathlib.Data.List.Nodup
import PermissionScreen.Group.Basic

/-!
Where a group is listed first.

A name may be listed any number of times, in one category or in several, and by descriptors that
disagree about it. `Groups.firstListing?` is the listing of a name that comes first over all
categories. `freshListings` keeps these listings while it goes through a list, given the names that
were listed before it.

* `mem_freshListings_iff`: what is kept is exactly the first listing of each name that is new.
* `freshListings_append`: a list can be gone through in parts, if the names of the earlier parts
  are handed on.
* `Groups.length_filter_firstListings`: to count first listings is to count names.
* `Groups.pairwise_place_firstListings`: first listings are kept in the order in which they are
  listed.
-/

namespace PermissionScreen

/-- The name of the group that a listing is of. -/
abbrev listedName (listing : Category × Descriptor) : String := listing.2.group

/-- The listings of names that are listed for the first time, where the names in `seen` have been
listed before. -/
def freshListings (seen : List String) :
    List (Category × Descriptor) → List (Category × Descriptor)
  | [] => []
  | listing :: rest =>
      if listedName listing ∈ seen then freshListings seen rest
      else listing :: freshListings (listedName listing :: seen) rest

section Fresh

variable {seen : List String} {listing first : Category × Descriptor}
  {listings rest : List (Category × Descriptor)}

theorem freshListings_cons_of_mem (old : listedName first ∈ seen) :
    freshListings seen (first :: rest) = freshListings seen rest := by
  rw [freshListings, if_pos old]

theorem freshListings_cons_of_not_mem (new : listedName first ∉ seen) :
    freshListings seen (first :: rest) =
      first :: freshListings (listedName first :: seen) rest := by
  rw [freshListings, if_neg new]

/-- What is kept is the first listing of each name that has not been listed before. -/
theorem mem_freshListings_iff :
    listing ∈ freshListings seen listings ↔
      listedName listing ∉ seen ∧
        listings.find? (listedName · = listedName listing) = some listing := by
  induction listings generalizing seen with
  | nil => simp [freshListings]
  | cons first rest ih =>
    by_cases same : listedName first = listedName listing
    · rw [List.find?_cons_of_pos (by simpa using same), Option.some.injEq]
      by_cases old : listedName first ∈ seen
      · rw [freshListings_cons_of_mem old, ih, ← same]
        exact ⟨fun h => absurd old h.1, fun h => absurd old h.1⟩
      · rw [freshListings_cons_of_not_mem old, List.mem_cons, ih, ← same]
        constructor
        · rintro (rfl | ⟨notSeen, _⟩)
          · exact ⟨old, rfl⟩
          · exact absurd List.mem_cons_self notSeen
        · rintro ⟨_, rfl⟩
          exact .inl rfl
    · rw [List.find?_cons_of_neg (by simpa using same)]
      by_cases old : listedName first ∈ seen
      · rw [freshListings_cons_of_mem old, ih]
      · rw [freshListings_cons_of_not_mem old, List.mem_cons, ih, List.mem_cons, not_or]
        constructor
        · rintro (rfl | ⟨⟨_, new⟩, found⟩)
          · exact absurd rfl same
          · exact ⟨new, found⟩
        · rintro ⟨new, found⟩
          exact .inr ⟨⟨fun e => same e.symm, new⟩, found⟩

/-- Going through a list in two parts: the second part finds the names of the first one listed. -/
theorem freshListings_append (front back : List (Category × Descriptor)) :
    freshListings seen (front ++ back) =
      freshListings seen front ++
        freshListings (((freshListings seen front).map listedName).reverse ++ seen) back := by
  induction front generalizing seen with
  | nil => rfl
  | cons first rest ih =>
    rw [List.cons_append]
    by_cases old : listedName first ∈ seen
    · rw [freshListings_cons_of_mem old, freshListings_cons_of_mem old, ih]
    · rw [freshListings_cons_of_not_mem old, freshListings_cons_of_not_mem old, ih]
      simp

theorem mem_of_mem_freshListings (mem : listing ∈ freshListings seen listings) :
    listing ∈ listings :=
  List.mem_of_find?_eq_some (mem_freshListings_iff.mp mem).2

/-- No name is kept twice. -/
theorem nodup_names_freshListings (seen : List String) (listings : List (Category × Descriptor)) :
    ((freshListings seen listings).map listedName).Nodup := by
  induction listings generalizing seen with
  | nil => exact List.nodup_nil
  | cons first rest ih =>
    by_cases old : listedName first ∈ seen
    · rw [freshListings_cons_of_mem old]
      exact ih seen
    · rw [freshListings_cons_of_not_mem old, List.map_cons, List.nodup_cons]
      refine ⟨fun mem => ?_, ih _⟩
      obtain ⟨other, kept, same⟩ := List.mem_map.mp mem
      exact (mem_freshListings_iff.mp kept).1 (same ▸ List.mem_cons_self)

/-- How many of some listings stand before the first one of a name. -/
def placeIn (listings : List (Category × Descriptor)) (name : String) : Nat :=
  listings.findIdx (listedName · = name)

/-- What is kept is kept in the order in which it is listed. -/
theorem pairwise_placeIn_freshListings (seen : List String)
    (listings : List (Category × Descriptor)) :
    (freshListings seen listings).Pairwise fun a b =>
      placeIn listings (listedName a) < placeIn listings (listedName b) := by
  induction listings generalizing seen with
  | nil => exact .nil
  | cons first rest ih =>
    have later : ∀ {seen : List String}, listedName first ∈ seen →
        ∀ listing ∈ freshListings seen rest,
          placeIn (first :: rest) (listedName listing) =
            placeIn rest (listedName listing) + 1 := by
      intro seen old listing mem
      have other : listedName first ≠ listedName listing := fun same =>
        (mem_freshListings_iff.mp mem).1 (same ▸ old)
      simp [placeIn, List.findIdx_cons, other]
    have behind : ∀ {seen : List String}, listedName first ∈ seen →
        (freshListings seen rest).Pairwise fun a b =>
          placeIn (first :: rest) (listedName a) < placeIn (first :: rest) (listedName b) := by
      intro seen old
      refine (ih seen).imp_of_mem fun {a b} left right before => ?_
      rw [later old a left, later old b right]
      exact Nat.succ_lt_succ before
    by_cases old : listedName first ∈ seen
    · rw [freshListings_cons_of_mem old]
      exact behind old
    · rw [freshListings_cons_of_not_mem old, List.pairwise_cons]
      refine ⟨fun listing mem => ?_, behind List.mem_cons_self⟩
      rw [later List.mem_cons_self listing mem]
      simp [placeIn, List.findIdx_cons]

end Fresh

namespace Groups

variable {groups : Groups} {name : String} {listing : Category × Descriptor}

/-- Where a group is listed first, over all categories. -/
def firstListing? (groups : Groups) (name : String) : Option (Category × Descriptor) :=
  (groups.listings Category.all).find? (listedName · = name)

/-- The first listing of each group, in order. -/
def firstListings (groups : Groups) : List (Category × Descriptor) :=
  freshListings [] (groups.listings Category.all)

/-- The names that are listed, each once. -/
def names (groups : Groups) : Finset String :=
  ((groups.listings Category.all).map listedName).toFinset

/-- How many listings stand before the first one of a group. -/
def place (groups : Groups) : String → Nat := placeIn (groups.listings Category.all)

theorem pairwise_place_firstListings (groups : Groups) :
    groups.firstListings.Pairwise fun a b =>
      groups.place (listedName a) < groups.place (listedName b) :=
  pairwise_placeIn_freshListings [] _

theorem mem_firstListings_iff :
    listing ∈ groups.firstListings ↔ groups.firstListing? (listedName listing) = some listing := by
  simp [firstListings, firstListing?, mem_freshListings_iff]

theorem listedName_of_firstListing? (found : groups.firstListing? name = some listing) :
    listedName listing = name := by
  simpa using List.find?_some found

theorem mem_firstListings_of_firstListing? (found : groups.firstListing? name = some listing) :
    listing ∈ groups.firstListings := by
  rw [mem_firstListings_iff, listedName_of_firstListing? found]
  exact found

theorem mem_names_iff : name ∈ groups.names ↔ (groups.firstListing? name).isSome := by
  simp [names, firstListing?, List.find?_isSome]

theorem nodup_names_firstListings (groups : Groups) :
    (groups.firstListings.map listedName).Nodup :=
  nodup_names_freshListings _ _

theorem nodup_names_filter (groups : Groups) (kind : Category × Descriptor → Bool) :
    ((groups.firstListings.filter kind).map listedName).Nodup :=
  groups.nodup_names_firstListings.sublist (List.filter_sublist.map _)

theorem nodup_firstListings (groups : Groups) : groups.firstListings.Nodup :=
  groups.nodup_names_firstListings.of_map _

/-- Of the first listings, at most one is of a given name. -/
theorem filter_firstListings_name (groups : Groups) (name : String) :
    groups.firstListings.filter (listedName · = name) = (groups.firstListing? name).toList := by
  have unique : ∀ listing ∈ groups.firstListings.filter (listedName · = name),
      groups.firstListing? name = some listing := by
    intro listing mem
    obtain ⟨first, same⟩ := List.mem_filter.mp mem
    rw [← of_decide_eq_true same]
    exact mem_firstListings_iff.mp first
  cases found : groups.firstListing? name with
  | none =>
    refine List.eq_nil_iff_forall_not_mem.mpr fun listing mem => ?_
    rw [unique listing mem] at found
    exact Option.some_ne_none _ found
  | some listing =>
    refine List.perm_singleton.mp ((List.perm_ext_iff_of_nodup
      (groups.nodup_firstListings.filter _) (List.nodup_singleton _)).mpr fun other => ?_)
    rw [List.mem_singleton]
    constructor
    · intro mem
      have := unique other mem
      rw [found] at this
      exact (Option.some.inj this).symm
    · rintro rfl
      exact List.mem_filter.mpr
        ⟨mem_firstListings_of_firstListing? found, by simpa using listedName_of_firstListing? found⟩

/-- The names of the first listings of some kind are the names whose first listing is of it. -/
theorem toFinset_names_filter (groups : Groups) (kind : Category × Descriptor → Bool) :
    ((groups.firstListings.filter kind).map listedName).toFinset =
      groups.names.filter fun name => (groups.firstListing? name).any kind := by
  ext name
  simp only [List.mem_toFinset, List.mem_map, List.mem_filter, Finset.mem_filter, mem_names_iff]
  constructor
  · rintro ⟨listing, ⟨mem, holds⟩, rfl⟩
    rw [mem_firstListings_iff.mp mem]
    exact ⟨rfl, holds⟩
  · rintro ⟨listed, holds⟩
    obtain ⟨listing, found⟩ := Option.isSome_iff_exists.mp listed
    rw [found] at holds
    exact ⟨listing, ⟨mem_firstListings_of_firstListing? found, holds⟩,
      listedName_of_firstListing? found⟩

/-- There are as many first listings of some kind as names whose first listing is of it. -/
theorem length_filter_firstListings (groups : Groups) (kind : Category × Descriptor → Bool) :
    (groups.firstListings.filter kind).length =
      (groups.names.filter fun name => (groups.firstListing? name).any kind).card := by
  rw [← toFinset_names_filter, List.toFinset_card_of_nodup (groups.nodup_names_filter kind),
    List.length_map]

/-- There is one first listing for each name. -/
theorem length_firstListings (groups : Groups) :
    groups.firstListings.length = groups.names.card := by
  have anyKind : ∀ name ∈ groups.names, (groups.firstListing? name).any fun _ => true := by
    intro name listed
    obtain ⟨listing, found⟩ := Option.isSome_iff_exists.mp (mem_names_iff.mp listed)
    rw [found]
    rfl
  have counted := groups.length_filter_firstListings fun _ => true
  rwa [List.filter_true, Finset.filter_true_of_mem anyKind] at counted

end Groups
end PermissionScreen
