import PermissionScreen.Proofs.Screen.Shape
import PermissionScreen.Proofs.Sorting.Keyed

/-!
Looking up the entry of a group.

An entry is looked up by its key, and the first one that has it is found. The key of a group's entry
is the name of the group, but other entries have keys as well, and the texts of the settings may make
one of them the name of a group. That does no harm, for three reasons: no name is shown twice, an
entry that says that there are none stands alone, and one that counts groups comes after the groups
whatever its title. So a section has the groups in front (`findsGroups_sectionOf`), and a group is
always found (`finds_groups_sections`).
-/

namespace PermissionScreen

/-! ### Groups in front -/

namespace Section

/-- The first entry of a section that does not stand for a group. -/
def otherEntry? (shown : Section) : Option Entry :=
  shown.entries.find? (!·.group?.isSome)

/-- That entry, if it does not have the key of a group's entry. -/
def keyedApart? (shown : Section) : Option Entry :=
  shown.otherEntry?.filter fun other => other.key ∉ shown.groupEntries.map (·.key)

/-- The entries of a section that can be found. -/
def reachable (shown : Section) : List Entry := shown.groupEntries ++ shown.keyedApart?.toList

/-- A section that has the entries for groups in front, each with the name of its group as its own
key, and at most one entry behind them. -/
structure FindsGroups (shown : Section) : Prop where
  front : shown.entries = shown.groupEntries ++ shown.otherEntry?.toList
  key_eq : ∀ entry ∈ shown.groupEntries, entry.group? = some entry.key
  distinct : (shown.groupEntries.map (·.key)).Nodup

namespace FindsGroups

variable {shown : Section} {entry : Entry} {name : String}

/-- Entries that can be found have distinct keys. -/
theorem nodup_keys_reachable (finds : shown.FindsGroups) :
    (shown.reachable.map (·.key)).Nodup := by
  rw [reachable, List.map_append, List.nodup_append]
  refine ⟨finds.distinct, ?_, ?_⟩
  · cases shown.keyedApart? <;> simp
  · intro key inFront key' behind same
    obtain ⟨other, mem, rfl⟩ := List.mem_map.mp behind
    obtain ⟨_, apart⟩ := Option.filter_eq_some_iff.mp (Option.mem_toList.mp mem)
    exact of_decide_eq_true apart (same ▸ inFront)

/-- An entry is found only if it can be. -/
theorem find?_eq (finds : shown.FindsGroups) (name : String) :
    shown.find? name = shown.reachable.find? (·.key = name) := by
  rw [Section.find?, finds.front, reachable, List.find?_append, List.find?_append]
  cases found : shown.groupEntries.find? (·.key = name) with
  | some entry => rfl
  | none =>
    have absent : name ∉ shown.groupEntries.map (·.key) := by
      simpa using found
    rw [keyedApart?]
    cases shown.otherEntry? with
    | none => rfl
    | some other =>
      by_cases same : other.key = name
      · simp [Option.filter, same, absent]
      · by_cases apart : other.key ∈ shown.groupEntries.map (·.key) <;>
          simp [Option.filter, same, apart]

theorem find?_eq_some_iff (finds : shown.FindsGroups) :
    shown.find? name = some entry ↔ entry ∈ shown.reachable ∧ entry.key = name := by
  rw [finds.find?_eq, find?_key_eq_some_iff finds.nodup_keys_reachable]

end FindsGroups

end Section

/-- An entry stands for a group if it does not count groups and does not say that there are none. -/
theorem Entry.group?_isSome_eq (entry : Entry) :
    entry.group?.isSome = (!entry.isAdditional && !entry.isPlaceholder) := by
  unfold group? isAdditional isPlaceholder
  cases entry.kind <;> rfl

namespace Scene

variable (scene : Scene) (category : Category) {listings : List (Category × Descriptor)}

/-- The section of listings of different names has their groups in front. -/
theorem findsGroups_sectionOf (distinct : (listings.map listedName).Nodup) :
    (scene.sectionOf category listings).FindsGroups where
  front := by
    rcases scene.entries_sectionOf_cases category listings with alone | ⟨others, _⟩
    · simp [Section.groupEntries, Section.otherEntry?, alone]
    · -- Where no entry says that there are none, those that are not for groups count.
      have group : ∀ entry ∈ (scene.sectionOf category listings).entries,
          entry.group?.isSome = !entry.isAdditional := by
        intro entry mem
        rw [entry.group?_isSome_eq, Bool.eq_false_iff.mpr (others entry mem), Bool.not_false,
          Bool.and_true]
      have other : ∀ entry ∈ (scene.sectionOf category listings).entries,
          (!entry.group?.isSome) = entry.isAdditional := by
        intro entry mem
        rw [group entry mem, Bool.not_not]
      rw [Section.groupEntries, Section.otherEntry?, ← List.head?_filter, List.filter_congr group,
        List.filter_congr other, toList_head?_of_length_le_one
          (scene.length_filter_isAdditional_sectionOf category listings)]
      exact additional_last (scene.stablySorts_sectionOf category listings).ordered
  key_eq entry mem := by
    obtain ⟨listing, _, rfl⟩ := List.mem_map.mp
      ((scene.groupEntries_sectionOf_perm category listings).mem_iff.mp mem)
    rfl
  distinct := by
    rw [((scene.groupEntries_sectionOf_perm category listings).map _).nodup_iff,
      map_key_shownEntries]
    exact distinct.sublist (List.filter_sublist.map _)

/-- So has every section of a screen. -/
theorem findsGroups_of_mem_sections {groups : Groups} {shown : Section}
    (mem : shown ∈ scene.sections groups) : shown.FindsGroups := by
  rw [sections_eq] at mem
  obtain ⟨category, _, rfl⟩ := List.mem_map.mp mem
  exact scene.findsGroups_sectionOf category (groups.nodup_names_filter _)

end Scene

/-- **Looking up groups.** In every section of a screen, the name of a group leads to the entry of
the group, also where another entry has it as its key. -/
theorem finds_groups_sections (scene : Scene) (groups : Groups) :
    ∀ shown ∈ scene.sections groups, ∀ entry ∈ shown.entries, ∀ name ∈ entry.group?,
      shown.find? name = some entry := by
  intro shown inScreen entry mem name group
  have finds := scene.findsGroups_of_mem_sections inScreen
  have inFront : entry ∈ shown.groupEntries :=
    List.mem_filter.mpr ⟨mem, Option.isSome_of_mem group⟩
  have key : entry.key = name :=
    Option.some.inj ((finds.key_eq entry inFront).symm.trans group)
  exact finds.find?_eq_some_iff.mpr ⟨List.mem_append_left _ inFront, key⟩

/-- A screen on which the entry that counts groups has no title, so that its key is the name of its
category. -/
def untitledScene : Scene :=
  let text : Message → String
    | .additionalPermissions => ""
    | message => message.english
  ⟨{ messages := ⟨text⟩ }, Args.ofPackage "app" 0 1, Records.empty, 0⟩

/-- Groups of which one is called like a category, and one is to be counted. -/
def allowedGroups : Groups :=
  Groups.empty.set .allowed [⟨"allowed", .plain, true⟩, ⟨"store", .plain, false⟩]

/-- The section of these groups. -/
def untitledSection : Section :=
  untitledScene.sectionOf .allowed (allowedGroups.listingsIn .allowed)

/-- In it another entry has the name of a group as its key. -/
theorem finds_groups_untitledSection :
    untitledSection ∈ untitledScene.sections allowedGroups ∧
      untitledScene.groupEntry .allowed ⟨"allowed", .plain, true⟩ ∈ untitledSection.entries ∧
      "allowed" ∈ (untitledScene.groupEntry .allowed ⟨"allowed", .plain, true⟩).group? ∧
      (∃ other ∈ untitledSection.entries, other.group? = none ∧ other.key = "allowed") ∧
      untitledSection.find? "allowed" =
        some (untitledScene.groupEntry .allowed ⟨"allowed", .plain, true⟩) := by
  have inScreen : untitledSection ∈ untitledScene.sections allowedGroups := by
    rw [Scene.sections_eq]
    exact List.mem_map_of_mem (by decide)
  have mem : untitledScene.groupEntry .allowed ⟨"allowed", .plain, true⟩ ∈
      untitledSection.entries := mem_sortEntries.mpr (by decide +kernel)
  have other : untitledScene.additionalEntry .allowed 1 ∈ untitledSection.entries :=
    mem_sortEntries.mpr (by decide +kernel)
  exact ⟨inScreen, mem, rfl, ⟨_, other, rfl, rfl⟩,
    finds_groups_sections untitledScene allowedGroups _ inScreen _ mem _ rfl⟩

end PermissionScreen
