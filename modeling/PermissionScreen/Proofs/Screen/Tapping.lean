import PermissionScreen.Proofs.Screen.Coverage
import PermissionScreen.Proofs.Screen.UsageLoad

/-!
Tapping entries.

An entry holds what is to happen when it is tapped, and has held it since the model was made. Between
then and now events have come in and the user has done other things. Still a tap acts on the groups
that came in last: what the user does leaves the screen as it is (`screen_live`), so that its model is
made of the latest groups, and each entry of it is one of three, which have their actions from these
groups and from what the screen is made for (`mem_sections_cases`). `taps_follow_listing` puts this
together.
-/

namespace PermissionScreen

/-! ### What the user does -/

/-- What the user of a screen can do. -/
inductive Touch where
  | tap (action : Action)
  | toggle (enabled : Bool)
  | choose (item : MenuItem)

/-- What can happen to a screen. -/
inductive Happening where
  | told (moment : Moment) (event : Event)
  | touched (touch : Touch)

/-- The event that happens, if one does. -/
def Happening.told? : Happening → Option (Moment × Event)
  | .told moment event => some (moment, event)
  | .touched _ => none

/-- The events among all that has happened. -/
def toldIn (past : List Happening) : History := past.filterMap Happening.told?

namespace Screen

/-- What the screen asks of its host for its user, if anything. -/
def callFor (screen : Screen) : Touch → Option HostCall
  | .tap action => screen.activate action
  | .toggle enabled => screen.setAutoRevoke enabled
  | .choose item => screen.choose item

/-- Does what its user wants, and says whether there was something to do. -/
def touch (screen : Screen) (touch : Touch) : Step Bool where
  screen := screen
  calls := (screen.callFor touch).toList
  result := (screen.callFor touch).isSome

/-- Takes everything that happens, in turn. -/
def live (screen : Screen) : List Happening → Screen × List HostCall
  | [] => (screen, [])
  | .told moment event :: rest =>
      let step := screen.handle moment event
      let later := step.screen.live rest
      (later.1, step.calls ++ later.2)
  | .touched touch :: rest =>
      let step := screen.touch touch
      let later := step.screen.live rest
      (later.1, step.calls ++ later.2)

/-- What the user does leaves no trace: the screen is that of the events alone. -/
theorem screen_live (screen : Screen) (past : List Happening) :
    (screen.live past).1 = (screen.handleAll (toldIn past)).1 := by
  induction past generalizing screen with
  | nil => rfl
  | cons happening rest ih =>
    cases happening with
    | told moment event => exact ih _
    | touched touch => exact ih _

end Screen

/-! ### What an entry has its action from -/

/-- An entry of a screen is that of a group, made by its first listing, or one that counts groups, or
one that says that there are none. -/
theorem Scene.mem_sections_cases {scene : Scene} {groups : Groups} {shown : Section} {entry : Entry}
    (inScreen : shown ∈ scene.sections groups) (mem : entry ∈ shown.entries) :
    (∃ source descriptor, groups.firstListing? descriptor.group = some (source, descriptor) ∧
      entry = scene.groupEntry source descriptor) ∨
    (∃ category count, entry = scene.additionalEntry category count) ∨
    ∃ category, entry = scene.placeholderEntry category := by
  rw [sections_eq] at inScreen
  obtain ⟨category, _, rfl⟩ := List.mem_map.mp inScreen
  rcases mem_sectionOf_cases mem with ⟨⟨source, descriptor⟩, listed, rfl⟩ | ⟨count, rfl⟩ | rfl
  · have first := Groups.mem_firstListings_iff.mp (List.mem_of_mem_filter listed)
    exact .inl ⟨source, descriptor, first, rfl⟩
  · exact .inr (.inl ⟨_, _, rfl⟩)
  · exact .inr (.inr ⟨_, rfl⟩)

/-- Tapping an entry does what goes with the groups of an app, as they are listed now. -/
structure FollowsListing (args : Args) (groups : Groups) (screen : Screen) (entry : Entry) :
    Prop where
  /-- Only an entry that says that there are none has nothing to do. -/
  answers_iff : (screen.touch (.tap entry.action)).result = true ↔ entry.isPlaceholder = false
  /-- Whatever an entry has to do, it does by one call. -/
  calls_once : (screen.touch (.tap entry.action)).calls.length =
    if entry.isPlaceholder then 0 else 1
  /-- The entry of a group opens the group in the category in which it is listed first. -/
  group : ∀ name ∈ entry.group?, ∃ source descriptor,
    groups.firstListing? name = some (source, descriptor) ∧
      (screen.touch (.tap entry.action)).calls = [.openGroup args name source]
  /-- The entry that counts groups leads to the other screen of the same app. -/
  additional : entry.isAdditional = true →
    (screen.touch (.tap entry.action)).calls = [.showAdditional { args with isSystem := false }]
  /-- Entries for groups, and no others, have a second action if there is a usage to be seen. -/
  secondary_isSome : entry.secondaryAction.isSome = (args.showsUsage && entry.group?.isSome)
  /-- It leads to the usage of the group. -/
  secondary : ∀ action ∈ entry.secondaryAction, ∃ name ∈ entry.group?,
    (screen.touch (.tap action)).calls = [.viewUsage args name] ∧
      (screen.touch (.tap action)).result = true
  /-- Neither changes the screen. -/
  unchanged : (screen.touch (.tap entry.action)).screen = screen ∧
    ∀ action ∈ entry.secondaryAction, (screen.touch (.tap action)).screen = screen

/-- An entry that is made for some groups follows their listing, also when it is tapped later, on a
screen of the same app. -/
theorem followsListing_of_mem_sections {scene : Scene} {groups : Groups} {screen : Screen}
    (same : screen.args = scene.args) {shown : Section} {entry : Entry}
    (inScreen : shown ∈ scene.sections groups) (mem : entry ∈ shown.entries) :
    FollowsListing scene.args groups screen entry := by
  rcases Scene.mem_sections_cases inScreen mem with
    ⟨source, descriptor, first, rfl⟩ | ⟨category, count, rfl⟩ | ⟨category, rfl⟩
  · constructor
    case answers_iff => exact ⟨fun _ => rfl, fun _ => rfl⟩
    case calls_once => rfl
    case group =>
      rintro name ⟨⟩
      refine ⟨source, descriptor, first, ?_⟩
      rw [← same]
      rfl
    case additional => exact nofun
    case secondary_isSome =>
      show (if scene.args.showsUsage then some (Action.viewUsage descriptor.group) else none).isSome
        = (scene.args.showsUsage && true)
      cases scene.args.showsUsage <;> rfl
    case secondary =>
      intro action shows
      obtain ⟨_, shows⟩ := Option.ite_none_right_eq_some.mp (Option.mem_def.mp shows)
      obtain rfl := Option.some.inj shows
      refine ⟨descriptor.group, rfl, ?_, rfl⟩
      rw [← same]
      rfl
    case unchanged => exact ⟨rfl, fun _ _ => rfl⟩
  · exact ⟨⟨fun _ => rfl, fun _ => rfl⟩, rfl, nofun, fun _ => rfl, (Bool.and_false _).symm, nofun,
      rfl, nofun⟩
  · exact ⟨⟨nofun, nofun⟩, rfl, nofun, nofun, (Bool.and_false _).symm, nofun, rfl, nofun⟩

/-- **Taps.** Whatever has happened to a screen, tapping an entry that it shows acts on the groups
that have come in last. -/
theorem taps_follow_listing (args : Args) (config : Config) (past : List Happening) :
    let screen := (({ args, config } : Screen).live past).1
    ∀ model ∈ screen.model, ∃ groups,
      (toldIn past).latest? Event.newGroups? = some groups ∧
        ∀ shown ∈ model.sections, ∀ entry ∈ shown.entries,
          FollowsListing args groups screen entry := by
  intro screen model hasModel
  have state : screen = Screen.after args config (toldIn past) := by
    rw [← Screen.handleAll_eq_after]
    exact Screen.screen_live _ _
  have made := hasModel
  rw [Option.mem_def, state, Screen.model_after] at made
  obtain ⟨time, rendered, rfl⟩ := Option.map_eq_some_iff.mp made
  have known := (toldIn past).renderTime?_isSome
  rw [rendered] at known
  obtain ⟨groups, latest⟩ := Option.isSome_iff_exists.mp known.symm
  have sameArgs : screen.args = args :=
    (congrArg Screen.args (Screen.screen_live _ _)).trans (Screen.args_handleAll _ _)
  refine ⟨groups, latest, fun shown inScreen entry mem => ?_⟩
  let counted := (Screen.keeping args config (toldIn past)).recount time
  let scene : Scene := ⟨config, args, counted.records, time⟩
  have sections : (counted.render time).sections = scene.sections groups := by
    show scene.sections (((toldIn past).latest? Event.newGroups?).getD Groups.empty) = _
    rw [latest]
    rfl
  rw [sections] at inScreen
  have same : screen.args = scene.args := sameArgs
  exact followsListing_of_mem_sections same inScreen mem

/-- A group that may be used while its app is in the foreground. -/
def foregroundGroups : Groups :=
  Groups.empty.set .allowedForeground [⟨"camera", .foregroundOnly, true⟩]

/-- A past in which the group has been denied first; its user has tapped it then. -/
def tappedPast : List Happening :=
  [.told ⟨0, 1⟩ (.groups (some (Groups.empty.set .denied [⟨"camera", .plain, true⟩]))),
    .touched (.tap (.openGroup "camera" .denied)),
    .told ⟨5, 2⟩ (.groups (some foregroundGroups))]

/-- Afterwards its entry acts on where the group is listed now. -/
theorem taps_follow_listing_tappedPast :
    let args := (Args.ofPackage "app" 0 1).withUsage true
    let screen := (({ args, config := {} } : Screen).live tappedPast).1
    ∃ model ∈ screen.model,
      (toldIn tappedPast).latest? Event.newGroups? = some foregroundGroups ∧
        ∃ shown ∈ model.sections, ∃ entry ∈ shown.entries, entry.group? = some "camera" ∧
          FollowsListing args foregroundGroups screen entry := by
  intro args screen
  let scene : Scene := ⟨{}, args, screen.records, 5⟩
  let entry := scene.groupEntry .allowedForeground ⟨"camera", .foregroundOnly, true⟩
  let model : Model := ⟨[⟨.allowed, [entry]⟩, ⟨.denied, [scene.placeholderEntry .denied]⟩], none⟩
  have shows : model ∈ screen.model := by
    rw [Option.mem_def]
    decide +kernel
  have latest : (toldIn tappedPast).latest? Event.newGroups? = some foregroundGroups := rfl
  obtain ⟨groups, latest', follows⟩ := taps_follow_listing args {} tappedPast model shows
  obtain rfl : foregroundGroups = groups := Option.some.inj (latest.symm.trans latest')
  exact ⟨model, shows, latest, _, List.mem_cons_self, entry, List.mem_cons_self, rfl,
    follows _ List.mem_cons_self entry List.mem_cons_self⟩

end PermissionScreen
