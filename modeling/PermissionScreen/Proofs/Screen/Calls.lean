import PermissionScreen.Proofs.Screen.History
import PermissionScreen.Proofs.Screen.Steps
import PermissionScreen.Proofs.Screen.Summaries

/-!
What a screen asks of its host while it handles events.

Only the source of the groups gives it cause: the first groups are recorded as seen, and if there is
no app it says so and is left. Settings and usages cause no calls, nor do they change what the
groups cause (`calls_handleAll`). Views are numbered at random; `withoutView` leaves the numbers out.
-/

namespace PermissionScreen

/-- A call without the number of its view. -/
def HostCall.withoutView : HostCall → HostCall
  | .recordView record => .recordView { record with view := 0 }
  | call => call

/-- What an event says that the source of the groups has sent. -/
def Event.sentGroups? : Event → Option (Option Groups)
  | .groups listed => some listed
  | _ => none

theorem viewRecord?_withoutView (args : Args) (view : Int64) (category : Category)
    (entry : Entry) :
    (entry.viewRecord? args view category).map (fun record => { record with view := 0 }) =
      entry.viewRecord? args 0 category := by
  unfold Entry.viewRecord?
  cases entry.kind <;> rfl

/-- Views differ in their numbers only. -/
theorem map_withoutView_viewRecords (model : Model) (args : Args) (view : Int64) :
    ((model.viewRecords args view).map .recordView).map HostCall.withoutView =
      (model.viewRecords args 0).map .recordView := by
  have numbered : (model.viewRecords args view).map (fun record => { record with view := 0 }) =
      model.viewRecords args 0 := by
    rw [Model.viewRecords, Model.viewRecords, List.map_flatMap]
    refine List.flatMap_congr fun category _ => ?_
    cases model.section? category with
    | none => rfl
    | some shown =>
      simp only [List.map_filterMap, viewRecord?_withoutView]
  rw [← numbered, List.map_map, List.map_map]
  rfl

namespace Screen

variable {screen : Screen}

/-- What a screen asks of its host when it shows groups for the first time. -/
def firstViews (args : Args) (config : Config) (groups : Groups) : List HostCall :=
  let scene : Scene := ⟨config, args, Records.empty, 0⟩
  ((⟨scene.sections groups, none⟩ : Model).viewRecords args 0).map .recordView

/-- What a screen asks of its host when it is sent groups, or that there is no app. -/
def groupCalls (args : Args) (config : Config) (firstLoad : Bool) : Option Groups → List HostCall
  | none => [.showError (config.messages.text .appNotFound), .navigateBack]
  | some groups => if firstLoad then firstViews args config groups else []

/-- What a screen asks of its host in the course of what the source of the groups sends. -/
def callsFor (args : Args) (config : Config) : Bool → List (Option Groups) → List HostCall
  | _, [] => []
  | firstLoad, listed :: rest =>
      groupCalls args config firstLoad listed ++
        callsFor args config (firstLoad && listed.isNone) rest

/-- As long as there are no groups, and only as long, nothing has been shown. -/
def Settled (screen : Screen) : Prop := screen.firstLoad = screen.groups.isNone

/-- What a step leaves as it was, and what it does to the groups. -/
structure Continues (screen : Screen) (event : Event) (next : Screen) : Prop where
  args : next.args = screen.args
  config : next.config = screen.config
  groups : next.groups = event.newGroups?.or screen.groups
  firstLoad : next.firstLoad = (screen.firstLoad && event.newGroups?.isNone)

theorem continues_handle (settled : screen.Settled) (moment : Moment) (event : Event) :
    Continues screen event (screen.handle moment event).screen := by
  cases event with
  | groups listed =>
    cases listed with
    | none => exact ⟨rfl, rfl, rfl, (Bool.and_true _).symm⟩
    | some groups => exact ⟨rfl, rfl, rfl, (Bool.and_false _).symm⟩
  | hibernation settings => cases settings <;> exact ⟨rfl, rfl, rfl, (Bool.and_true _).symm⟩
  | usages result =>
    cases result with
    | error error => exact ⟨rfl, rfl, rfl, (Bool.and_true _).symm⟩
    | ok usages =>
      have brings : (Event.usages (.ok usages)).newGroups? = none := rfl
      rcases screen.onUsages_cases moment usages with eq | ⟨_, eq⟩ | ⟨groups, known, eq⟩
      · rw [handle, eq]
        exact ⟨rfl, rfl, rfl, (Bool.and_true _).symm⟩
      · rw [handle, eq]
        exact ⟨rfl, rfl, rfl, (Bool.and_true _).symm⟩
      · have shown : screen.firstLoad = false := by rw [settled, known]; rfl
        rw [handle, eq]
        exact ⟨rfl, rfl, rfl, by rw [shown]; rfl⟩

/-- The groups a screen has decide whether it has shown something, after each event as before. -/
theorem settled_handle (settled : screen.Settled) (moment : Moment) (event : Event) :
    (screen.handle moment event).screen.Settled := by
  have next := continues_handle settled moment event
  rw [Settled, next.firstLoad, next.groups, settled]
  cases event.newGroups? <;> simp

/-- When groups are shown for the first time, that they are seen is recorded. The records, the time
and the settings of revoking do not matter. -/
theorem calls_refresh {groups : Groups} (known : screen.groups = some groups) (moment : Moment) :
    (screen.refresh moment).calls.map HostCall.withoutView =
      if screen.firstLoad then firstViews screen.args screen.config groups else [] := by
  let records := (screen.recount moment.now).records
  let shown : Scene := ⟨screen.config, screen.args, records, moment.now⟩
  let bare : Scene := ⟨screen.config, screen.args, Records.empty, 0⟩
  have calls : (screen.refresh moment).calls =
      if screen.firstLoad then
        (((screen.recount moment.now).render moment.now).viewRecords screen.args moment.view).map
          .recordView
      else [] := rfl
  have sections : ((screen.recount moment.now).render moment.now).sections =
      shown.sections groups := by
    show shown.sections (screen.groups.getD Groups.empty) = _
    rw [known, Option.getD_some]
  have same : Scene.SameScreen shown bare := ⟨rfl, rfl⟩
  rw [calls]
  split
  · rw [map_withoutView_viewRecords]
    refine congrArg (List.map _) (viewRecords_congr _ _ ?_)
    rw [sections]
    exact same.sections_withoutSummaries groups
  · rfl

/-- One event: only what the source of the groups sends causes calls. -/
theorem calls_handle (settled : screen.Settled) (moment : Moment) (event : Event) :
    (screen.handle moment event).calls.map HostCall.withoutView =
      (event.sentGroups?.map (groupCalls screen.args screen.config screen.firstLoad)).getD [] := by
  cases event with
  | groups listed =>
    cases listed with
    | none => rfl
    | some groups =>
      let told : Screen := { screen with groups := some groups }
      have known : told.groups = some groups := rfl
      exact calls_refresh known moment
  | hibernation settings => cases settings <;> rfl
  | usages result =>
    cases result with
    | error error => rfl
    | ok usages =>
      rcases screen.onUsages_cases moment usages with eq | ⟨_, eq⟩ | ⟨groups, known, eq⟩
      · rw [handle, eq]
        rfl
      · rw [handle, eq]
        rfl
      · have shown : screen.firstLoad = false := by rw [settled, known]; rfl
        let told : Screen := { screen with usages }
        have known : told.groups = some groups := known
        rw [handle, eq]
        exact (calls_refresh known moment).trans (if_neg (by simp [told, shown]))

/-- A run: the calls follow from what the source of the groups sends, whatever the other sources
send in between and whatever the clock says. -/
theorem calls_handleAll (settled : screen.Settled) (past : History) :
    (screen.handleAll past).2.map HostCall.withoutView =
      callsFor screen.args screen.config screen.firstLoad
        ((past.map Prod.snd).filterMap Event.sentGroups?) := by
  induction past generalizing screen with
  | nil => rfl
  | cons told rest ih =>
    obtain ⟨moment, event⟩ := told
    have next := continues_handle settled moment event
    rw [handleAll, List.map_append, calls_handle settled, ih (settled_handle settled moment event),
      next.args, next.config, next.firstLoad]
    cases event with
    | groups listed =>
      cases listed <;> rfl
    | _ =>
      show callsFor screen.args screen.config (screen.firstLoad && true) _ = _
      rw [Bool.and_true]
      rfl

end Screen
end PermissionScreen
