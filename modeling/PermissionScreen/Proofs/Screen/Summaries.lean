import PermissionScreen.Proofs.Screen.Layout
import PermissionScreen.Screen.ViewLog

/-!
What recorded accesses and the time have a say in.

They only go into the lines below the titles of groups. Sections that are made from other records,
or at another time, are the same but for these lines: they are the first ones told anew
(`sections_eq_retold`), or, without these lines, no others (`sections_withoutSummaries`). So is what
is recorded as seen (`viewRecords_congr`).
-/

namespace PermissionScreen

/-- The line below the title of a group, as a scene has it. -/
def Scene.groupSummary (scene : Scene) (group : String) (subtitle : Subtitle) : Option String :=
  scene.config.messages.summary? subtitle (scene.recency scene.config.zone group)
    (scene.accessTime scene.config.zone group)

/-- An entry with the line that a scene has below the title, if it is that of a group. -/
def Entry.retold (scene : Scene) (entry : Entry) : Entry :=
  match entry.kind with
  | .group name _ subtitle => { entry with summary := scene.groupSummary name subtitle }
  | _ => entry

/-- A section with the lines that a scene has below the titles of groups. -/
def Section.retold (scene : Scene) (shown : Section) : Section :=
  ⟨shown.category, shown.entries.map (Entry.retold scene)⟩

/-- An entry without the line below its title, if it is that of a group. -/
def Entry.withoutSummary (entry : Entry) : Entry :=
  if entry.group?.isSome then { entry with summary := none } else entry

/-- A section without the lines below the titles of groups. -/
def Section.withoutSummaries (shown : Section) : Section :=
  ⟨shown.category, shown.entries.map Entry.withoutSummary⟩

namespace Entry

@[simp] theorem kind_withoutSummary (entry : Entry) :
    entry.withoutSummary.kind = entry.kind := by
  unfold withoutSummary
  split <;> rfl

/-- Only the line below the title is told anew. -/
theorem retold_eq (scene : Scene) (entry : Entry) :
    entry.retold scene = { entry with summary := (entry.retold scene).summary } := by
  unfold retold
  split <;> rfl

/-- An entry that is not that of a group has nothing to be told anew. -/
theorem retold_of_group?_eq_none (scene : Scene) {entry : Entry} (none : entry.group? = none) :
    entry.retold scene = entry := by
  unfold retold
  split
  · next kind => simp [group?, kind] at none
  · rfl

@[simp] theorem kind_retold (scene : Scene) (entry : Entry) :
    (entry.retold scene).kind = entry.kind := by
  rw [retold_eq]

@[simp] theorem key_retold (scene : Scene) (entry : Entry) :
    (entry.retold scene).key = entry.key := by
  rw [retold_eq]

@[simp] theorem title_retold (scene : Scene) (entry : Entry) :
    (entry.retold scene).title = entry.title := by
  rw [retold_eq]

/-- The order of entries does not look at the lines below their titles. -/
theorem compare_retold (alphabet : Alphabet) (scene : Scene) (left right : Entry) :
    Entry.compare alphabet (left.retold scene) (right.retold scene) =
      Entry.compare alphabet left right := by
  simp only [Entry.compare, isAdditional, kind_retold, title_retold]

/-- What is told anew is no more than what would be left out. -/
@[simp] theorem withoutSummary_retold (scene : Scene) (entry : Entry) :
    (entry.retold scene).withoutSummary = entry.withoutSummary := by
  have group : (entry.retold scene).group? = entry.group? := by
    simp only [group?, kind_retold]
  rw [withoutSummary, withoutSummary, group]
  split
  · rw [retold_eq]
  · next none => exact retold_of_group?_eq_none scene (by simpa using none)

end Entry

theorem sortEntries_retold (alphabet : Alphabet) (scene : Scene) (entries : List Entry) :
    (sortEntries alphabet entries).map (Entry.retold scene) =
      sortEntries alphabet (entries.map (Entry.retold scene)) := by
  apply List.map_mergeSort
  intro left _ right _
  rw [Entry.compare_retold]

namespace Scene

variable {scene other : Scene}

/-- Two scenes of one screen: their settings and their app are the same, their records and their
time may differ. -/
structure SameScreen (scene other : Scene) : Prop where
  config : scene.config = other.config
  args : scene.args = other.args

theorem SameScreen.groupEntry_eq_retold (same : SameScreen scene other) (source : Category)
    (descriptor : Descriptor) :
    other.groupEntry source descriptor = (scene.groupEntry source descriptor).retold other := by
  simp only [groupEntry, groupEntryIn, Entry.retold, groupSummary, same.args]

theorem SameScreen.shownEntries_eq_retold (same : SameScreen scene other)
    (listings : List (Category × Descriptor)) :
    other.shownEntries listings = (scene.shownEntries listings).map (Entry.retold other) := by
  rw [shownEntries, shownEntries, same.args, List.map_map]
  apply List.map_congr_left
  intro listing _
  exact same.groupEntry_eq_retold listing.1 listing.2

theorem SameScreen.unsortedEntries_eq_retold (same : SameScreen scene other)
    (category : Category) (listings : List (Category × Descriptor)) :
    other.unsortedEntries category listings =
      (scene.unsortedEntries category listings).map (Entry.retold other) := by
  have counted : other.countEntry category listings =
      (scene.countEntry category listings).map (Entry.retold other) := by
    have count : scene.countOf listings = other.countOf listings := by
      rw [countOf, countOf, same.args]
    simp only [countEntry, count, additionalEntry, same.config, same.args]
    split <;> rfl
  have placeholder : other.placeholderEntry category =
      (scene.placeholderEntry category).retold other := by
    simp only [placeholderEntry, same.config]
    rfl
  simp only [unsortedEntries, same.shownEntries_eq_retold, counted, placeholder,
    ← List.map_append, List.isEmpty_map]
  split
  · rfl
  · rfl

/-- Records and time only change the lines below the titles of groups: the sections of another scene
of the screen are those of this one, told anew. -/
theorem SameScreen.sections_eq_retold (same : SameScreen scene other) (groups : Groups) :
    other.sections groups = (scene.sections groups).map (Section.retold other) := by
  rw [sections_eq, sections_eq, List.map_map]
  apply List.map_congr_left
  intro category _
  simp only [Function.comp_apply, sectionOf, Section.retold, sortEntries_retold,
    same.unsortedEntries_eq_retold]

/-- Without these lines the sections are the same. -/
theorem SameScreen.sections_withoutSummaries (same : SameScreen scene other) (groups : Groups) :
    (scene.sections groups).map Section.withoutSummaries =
      (other.sections groups).map Section.withoutSummaries := by
  rw [same.sections_eq_retold, List.map_map]
  apply List.map_congr_left
  intro shown _
  simp [Section.withoutSummaries, Section.retold]

end Scene

/-! ### What is recorded as seen -/

@[simp] theorem viewRecord?_withoutSummary (args : Args) (view : Int64) (category : Category)
    (entry : Entry) :
    entry.withoutSummary.viewRecord? args view category =
      entry.viewRecord? args view category := by
  simp only [Entry.viewRecord?, Entry.kind_withoutSummary]

theorem section?_withoutSummaries (model : Model) (category : Category) :
    (⟨model.sections.map Section.withoutSummaries, none⟩ : Model).section? category =
      (model.section? category).map Section.withoutSummaries := by
  rw [Model.section?, List.find?_map]
  rfl

theorem viewRecords_withoutSummaries (model : Model) (args : Args) (view : Int64) :
    (⟨model.sections.map Section.withoutSummaries, none⟩ : Model).viewRecords args view =
      model.viewRecords args view := by
  refine List.flatMap_congr fun category _ => ?_
  rw [section?_withoutSummaries]
  cases model.section? category with
  | none => rfl
  | some shown =>
    simp [Section.withoutSummaries, List.filterMap_map]

/-- What is recorded as seen does not depend on the lines below the titles, nor on the switch. -/
theorem viewRecords_congr {model other : Model} (args : Args) (view : Int64)
    (same : model.sections.map Section.withoutSummaries =
      other.sections.map Section.withoutSummaries) :
    model.viewRecords args view = other.viewRecords args view := by
  rw [← viewRecords_withoutSummaries model, ← viewRecords_withoutSummaries other, same]

end PermissionScreen
