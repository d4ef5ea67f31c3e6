import PermissionScreen.Proofs.Screen.Calls
import PermissionScreen.Proofs.Screen.Coverage
import PermissionScreen.Proofs.Sorting.Keyed

/-!
What is recorded as seen, and when.

The first groups that a screen is sent are recorded as seen, while they are taken in and at no other
time (`records_once`). There is a record for each entry for a group in the section of what is allowed
and in that of what is denied, in order; no group is recorded twice.
-/

namespace PermissionScreen

open scoped List

/-- What a call puts on record, if it does. -/
def HostCall.record? : HostCall → Option ViewRecord
  | .recordView record => some record
  | _ => none

/-- What some calls put on record. -/
def recorded (calls : List HostCall) : List ViewRecord := calls.filterMap HostCall.record?

/-- The entries in the sections of a category. -/
def Model.entriesOf (model : Model) (category : Category) : List Entry :=
  (model.sections.filter (·.category = category)).flatMap (·.entries)

/-- The entries for groups in the section of a category. -/
def Model.groupEntriesOf (model : Model) (category : Category) : List Entry :=
  (model.entriesOf category).filter (·.group?.isSome)

/-- The kind of access that an entry tells of, if it stands for a group. -/
def Entry.subtitle? (entry : Entry) : Option Subtitle :=
  match entry.kind with
  | .group _ _ subtitle => some subtitle
  | _ => none

/-- A record says that an entry for a group has been seen in the section of a category. -/
structure ViewRecord.IsOf (args : Args) (view : Int64) (category : Category) (record : ViewRecord)
    (entry : Entry) : Prop where
  group : entry.group? = some record.group
  package : record.package = args.package
  session : record.session = args.session
  view : record.view = view
  denied : record.category = .denied ↔ category = .denied
  allowedForeground : record.category = .allowedForeground ↔
    category ≠ .denied ∧ entry.subtitle? = some .foregroundOnly
  allowed : record.category = .allowed ↔
    category ≠ .denied ∧ entry.subtitle? ≠ some .foregroundOnly

/-- The records of a model that is seen: one for each entry for a group that is allowed, and then one
for each that is denied. -/
structure Seen (args : Args) (view : Int64) (model : Model) (records : List ViewRecord) : Prop where
  inOrder : ∃ allowed denied, records = allowed ++ denied ∧
    List.Forall₂ (ViewRecord.IsOf args view .allowed) allowed (model.groupEntriesOf .allowed) ∧
      List.Forall₂ (ViewRecord.IsOf args view .denied) denied (model.groupEntriesOf .denied)
  /-- No group is recorded twice. -/
  distinct : (records.map (·.group)).Nodup
  /-- A group that is to be asked for is not recorded. -/
  notAsked : ∀ entry ∈ model.groupEntriesOf .ask, ∀ record ∈ records,
    entry.group? ≠ some record.group

/-! ### The records of a model -/

/-- The sections of what is allowed and of what is denied are recorded, entry by entry. -/
theorem viewRecords_eq {model : Model} (distinct : (model.sections.map (·.category)).Nodup)
    (args : Args) (view : Int64) :
    model.viewRecords args view =
      (model.entriesOf .allowed).filterMap (Entry.viewRecord? args view .allowed) ++
        (model.entriesOf .denied).filterMap (Entry.viewRecord? args view .denied) := by
  rw [Model.viewRecords, List.flatMap_cons, List.flatMap_singleton, Model.entriesOf,
    Model.entriesOf, filter_key_eq_toList_find? distinct, filter_key_eq_toList_find? distinct,
    ← Model.section?, ← Model.section?]
  cases model.section? .allowed <;> cases model.section? .denied <;> simp

theorem forall₂_viewRecords (args : Args) (view : Int64) (category : Category)
    (entries : List Entry) :
    List.Forall₂ (ViewRecord.IsOf args view category)
      (entries.filterMap (Entry.viewRecord? args view category))
      (entries.filter (·.group?.isSome)) := by
  induction entries with
  | nil => exact .nil
  | cons entry rest ih =>
    cases kind : entry.kind with
    | group name source subtitle =>
      have record : entry.viewRecord? args view category =
          some ⟨args.session, view, args.package, name, viewCategory category subtitle⟩ := by
        rw [Entry.viewRecord?, kind]
      have group : entry.group? = some name := by rw [Entry.group?, kind]
      have access : entry.subtitle? = some subtitle := by rw [Entry.subtitle?, kind]
      rw [List.filterMap_cons_some record, List.filter_cons_of_pos (by simp [group])]
      refine .cons ⟨group, rfl, rfl, rfl, ?_, ?_, ?_⟩ ih <;>
        cases category <;> cases subtitle <;> simp [viewCategory, access]
    | _ =>
      have record : entry.viewRecord? args view category = none := by
        rw [Entry.viewRecord?, kind]
      have group : entry.group? = none := by rw [Entry.group?, kind]
      rw [List.filterMap_cons_none record, List.filter_cons_of_neg (by simp [group])]
      exact ih

/-- The names on record are those of the entries. -/
theorem names_of_forall₂ {args : Args} {view : Int64} {category : Category}
    {records : List ViewRecord} {entries : List Entry}
    (each : List.Forall₂ (ViewRecord.IsOf args view category) records entries) :
    records.map (·.group) = entries.filterMap Entry.group? := by
  induction each with
  | nil => rfl
  | cons isOf _ ih => rw [List.map_cons, List.filterMap_cons_some isOf.group, ih]

section Sections

variable {scene : Scene} {groups : Groups} {model : Model}

/-- The entries for groups are those of the three sections, one after the other. -/
theorem groupEntriesOf_append (made : model.sections = scene.sections groups) :
    model.groupEntriesOf .allowed ++ (model.groupEntriesOf .ask ++ model.groupEntriesOf .denied) =
      (groupEntries model.sections).map Prod.snd := by
  have allowed : groups.hasSection .allowed = true := rfl
  have denied : groups.hasSection .denied = true := rfl
  rw [Scene.sections_eq, Scene.displayOrder] at made
  cases ask : groups.hasSection .ask <;>
    simp [Model.groupEntriesOf, Model.entriesOf, made, groupEntries, List.filter,
      Section.groupEntries, allowed, denied, ask, Scene.sectionOf, Function.comp_def]

/-- No group has two entries. -/
theorem nodup_names_groupEntries (scene : Scene) (groups : Groups) :
    (((groupEntries (scene.sections groups)).map Prod.snd).filterMap Entry.group?).Nodup := by
  have perm := ((groupEntries_sections_perm scene groups).map Prod.snd).filterMap Entry.group?
  have names : (((groups.firstListings.filter (isShown scene.args.isSystem)).map
      scene.placedEntry).map Prod.snd).filterMap Entry.group? =
        (groups.firstListings.filter (isShown scene.args.isSystem)).map listedName := by
    rw [List.map_map, List.filterMap_map, ← List.filterMap_eq_map]
    rfl
  rw [perm.nodup_iff, names]
  exact groups.nodup_names_filter _

/-- The records of a model are those of one that is seen. -/
theorem seen_viewRecords (made : model.sections = scene.sections groups) (args : Args)
    (view : Int64) : Seen args view model (model.viewRecords args view) := by
  have categories : (model.sections.map (·.category)).Nodup := by
    rw [made, categories_sections]
    exact nodup_sectionCategories groups
  have inOrder := viewRecords_eq categories args view
  have allowed := forall₂_viewRecords args view .allowed (model.entriesOf .allowed)
  have denied := forall₂_viewRecords args view .denied (model.entriesOf .denied)
  have recorded : (model.viewRecords args view).map (·.group) =
      (model.groupEntriesOf .allowed).filterMap Entry.group? ++
        (model.groupEntriesOf .denied).filterMap Entry.group? := by
    rw [inOrder, List.map_append, names_of_forall₂ allowed, names_of_forall₂ denied]
    rfl
  have names := nodup_names_groupEntries scene groups
  rw [← made, ← groupEntriesOf_append made, List.filterMap_append, List.filterMap_append] at names
  obtain ⟨allowedNames, others, allowedOthers⟩ := List.nodup_append.mp names
  obtain ⟨-, deniedNames, askedDenied⟩ := List.nodup_append.mp others
  refine ⟨⟨_, _, inOrder, allowed, denied⟩, ?_, ?_⟩
  · rw [recorded]
    refine List.nodup_append.mpr ⟨allowedNames, deniedNames, fun name mem other mem' => ?_⟩
    exact allowedOthers name mem other (List.mem_append_right _ mem')
  · intro entry asked record mem same
    have name := List.mem_filterMap.mpr ⟨entry, asked, same⟩
    have mem : record.group ∈ (model.viewRecords args view).map (·.group) :=
      List.mem_map_of_mem mem
    rw [recorded] at mem
    rcases List.mem_append.mp mem with isAllowed | isDenied
    · exact allowedOthers _ isAllowed _ (List.mem_append_left _ name) rfl
    · exact askedDenied _ name _ isDenied rfl

end Sections

/-! ### The records of a run -/

theorem recorded_append (front back : List HostCall) :
    recorded (front ++ back) = recorded front ++ recorded back :=
  List.filterMap_append

/-- Whether calls put something on record does not depend on how views are numbered. -/
theorem recorded_eq_nil_iff_withoutView {calls : List HostCall} :
    recorded calls = [] ↔ recorded (calls.map HostCall.withoutView) = [] := by
  rw [recorded, recorded, List.filterMap_map, List.filterMap_eq_nil_iff, List.filterMap_eq_nil_iff]
  refine forall₂_congr fun call _ => ?_
  cases call <;> simp [HostCall.record?, HostCall.withoutView]

namespace Screen

variable {screen : Screen} {args : Args} {config : Config} {past : History}

/-- Nothing is recorded if something has been shown already, or if there are no groups. -/
theorem recorded_callsFor {firstLoad : Bool} {listed : List (Option Groups)}
    (nothing : firstLoad = false ∨ ∀ sent ∈ listed, sent = none) :
    recorded (callsFor args config firstLoad listed) = [] := by
  induction listed generalizing firstLoad with
  | nil => rfl
  | cons sent rest ih =>
    have now : recorded (groupCalls args config firstLoad sent) = [] := by
      cases sent with
      | none => rfl
      | some groups =>
        rcases nothing with shown | none
        · rw [groupCalls, shown]
          rfl
        · exact absurd (none _ List.mem_cons_self) (Option.some_ne_none groups)
    have later : (firstLoad && sent.isNone) = false ∨ ∀ sent ∈ rest, sent = none := by
      rcases nothing with shown | none
      · exact .inl (by rw [shown, Bool.false_and])
      · exact .inr fun sent mem => none sent (List.mem_cons_of_mem _ mem)
    rw [callsFor, recorded_append, now, ih later]
    rfl

/-- A screen that has shown something, or that gets no groups, has nothing recorded. -/
theorem recorded_handleAll_eq_nil (settled : screen.Settled)
    (nothing : screen.firstLoad = false ∨ past.latest? Event.newGroups? = none) :
    recorded (screen.handleAll past).2 = [] := by
  rw [recorded_eq_nil_iff_withoutView, calls_handleAll settled]
  refine recorded_callsFor (nothing.imp_right fun none sent mem => ?_)
  obtain ⟨event, mem, isSent⟩ := List.mem_filterMap.mp mem
  obtain ⟨told, inPast, rfl⟩ := List.mem_map.mp mem
  have unknown := History.latest?_eq_none_iff.mp none told inPast
  cases event : told.2 with
  | groups listed =>
    rw [event] at isSent unknown
    rw [← Option.some.inj isSent]
    exact unknown
  | _ =>
    rw [event] at isSent
    cases isSent

/-- A fresh screen that has had no groups is as it was made, but for what it keeps for later. -/
theorem handleAll_of_no_groups (args : Args) (config : Config)
    (none : past.latest? Event.newGroups? = none) :
    (({ args, config } : Screen).handleAll past).1 = keeping args config past := by
  have rendered := past.renderTime?_isSome
  have time : past.renderTime? = .none := by simpa [none] using rendered
  rw [handleAll_eq_after, after, time]

/-- Groups that are taken in are shown, and recorded as seen if they are the first. -/
theorem handle_groups (screen : Screen) (moment : Moment) (groups : Groups) :
    let step := screen.handle moment (.groups (some groups))
    ∃ scene : Scene, ∃ model, model.sections = scene.sections groups ∧
      step.screen.model = some model ∧
        step.calls =
          if screen.firstLoad then (model.viewRecords screen.args moment.view).map .recordView
          else [] := by
  let counted := { screen with groups := some groups }.recount moment.now
  exact ⟨⟨counted.config, counted.args, counted.records, moment.now⟩, counted.render moment.now,
    rfl, rfl, rfl⟩

/-- What is put on record in the course of a past: nothing before there are groups, then the first
groups while they are taken in, and nothing from then on. -/
structure RecordsOnce (args : Args) (config : Config) (past : History) : Prop where
  never : past.latest? Event.newGroups? = none →
    recorded (({ args, config } : Screen).handleAll past).2 = []
  once : ∀ {before : History} {moment groups} {later : History},
    past = before ++ (moment, .groups (some groups)) :: later →
      before.latest? Event.newGroups? = none →
        let fresh : Screen := { args, config }
        let first := fresh.handleAll before
        let step := first.1.handle moment (.groups (some groups))
        let last := step.screen.handleAll later
        (fresh.handleAll past).2 = first.2 ++ (step.calls ++ last.2) ∧
          recorded first.2 = [] ∧ recorded last.2 = [] ∧
            ∃ model records, step.screen.model = some model ∧
              step.calls = records.map .recordView ∧ Seen args moment.view model records

/-- **Seen once.** However the events of the sources come in, the first groups are recorded as seen
while they are taken in, and at no other time. -/
theorem records_once (args : Args) (config : Config) (past : History) :
    RecordsOnce args config past where
  never none := recorded_handleAll_eq_nil rfl (.inr none)
  once {before moment groups later} eq none := by
    intro fresh first step last
    -- Without groups the screen is as it was made, so those that come next are its first.
    have kept : first.1 = keeping args config before := handleAll_of_no_groups args config none
    have firstLoad : first.1.firstLoad = true := by
      rw [kept]
      exact Option.isNone_iff_eq_none.mpr none
    have settled : first.1.Settled := by
      rw [kept]
      rfl
    have ownArgs : first.1.args = args := by rw [kept]; rfl
    have shown : step.screen.firstLoad = false := rfl
    obtain ⟨scene, model, made, isModel, calls⟩ := first.1.handle_groups moment groups
    rw [firstLoad, if_pos rfl, ownArgs] at calls
    refine ⟨?_, recorded_handleAll_eq_nil rfl (.inr none),
      recorded_handleAll_eq_nil (settled_handle settled moment _) (.inl shown),
      model, _, isModel, calls, seen_viewRecords made args moment.view⟩
    rw [eq, handleAll_append]
    rfl

end Screen
end PermissionScreen
