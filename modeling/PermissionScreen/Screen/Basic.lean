import PermissionScreen.Screen.Error
import PermissionScreen.Screen.Hibernation
import PermissionScreen.Screen.Sections
import PermissionScreen.Screen.ViewLog

/-!
The screen of one app. It keeps the latest that each source has sent, makes its model anew whenever
one of them changes, and answers what its user does. What it wants from its host it returns as a
list of calls.
-/

namespace PermissionScreen

inductive MenuItem where
  | allPermissions
  | help
  deriving DecidableEq, Repr

/-- What a source sends. -/
inductive Event where
  /-- The groups of the app, or nothing if there is no such app. -/
  | groups (groups : Option Groups)
  | hibernation (hibernation : Option Hibernation)
  | usages (usages : Except ScreenError (List AppUsage))

/-- What the screen asks of its host. -/
inductive HostCall where
  | openGroup (args : Args) (group : String) (category : Category)
  | viewUsage (args : Args) (group : String)
  | showAdditional (args : Args)
  | showAllPermissions (args : Args)
  | showHelp (args : Args)
  | setAutoRevoke (args : Args) (enabled : Bool)
  | showError (message : String)
  | navigateBack
  | recordView (record : ViewRecord)
  deriving DecidableEq, Repr

/-- What an event finds when it is handled: the time, and a number for a view should one begin. -/
structure Moment where
  now : Int
  view : Int64

structure Screen where
  args : Args
  config : Config
  groups : Option Groups := none
  hibernation : Option Hibernation := none
  usages : List AppUsage := []
  records : Records := Records.empty
  model : Option Model := none
  /-- Nothing has been shown so far. -/
  firstLoad : Bool := true
  deriving DecidableEq

/-- A screen after it has done something, with what it asked of its host in doing it and what came
of it. -/
structure Step (α : Type) where
  screen : Screen
  calls : List HostCall
  result : α

namespace Screen

/-- The time from which uses are asked for. -/
def usageBegin (screen : Screen) (now : Int) : Int :=
  lookbackBegin now screen.config.lookbackDays.toNat

/-- The switch that goes with some sections. -/
def autoRevokeFor (screen : Screen) (model : Model) : Option AutoRevoke :=
  screen.hibernation.bind fun hibernation =>
    hibernation.autoRevoke? (model.section? .allowed) screen.config.messages

/-- The screen with the records of its usages, as seen at a time. -/
def recount (screen : Screen) (now : Int) : Screen :=
  { screen with
    records := screen.records.rebuild screen.usages screen.args.package (screen.usageBegin now) }

/-- The model of what the screen keeps. -/
def render (screen : Screen) (now : Int) : Model :=
  let scene : Scene := ⟨screen.config, screen.args, screen.records, now⟩
  let model : Model := ⟨scene.sections (screen.groups.getD Groups.empty), none⟩
  { model with autoRevoke := screen.autoRevokeFor model }

/-- Makes the model anew. The first time its groups are recorded as seen. -/
def refresh (screen : Screen) (moment : Moment) : Step Model :=
  let counted := screen.recount moment.now
  let model := counted.render moment.now
  { screen := { counted with model := some model, firstLoad := false }
    calls :=
      if screen.firstLoad then (model.viewRecords screen.args moment.view).map .recordView else []
    result := model }

/-- Takes in the groups of the app. If there is no such app, the screen says so and is left. -/
def onGroups (screen : Screen) (moment : Moment) (groups : Option Groups) :
    Step (Except ScreenError Model) :=
  match groups with
  | none =>
      { screen
        calls := [.showError (screen.config.messages.text .appNotFound), .navigateBack]
        result := .error (.appNotFound screen.args.package) }
  | some groups =>
      let step := { screen with groups := some groups }.refresh moment
      { step with result := .ok step.result }

/-- Takes in the settings of revoking. Only the switch is made anew. -/
def onHibernation (screen : Screen) (hibernation : Option Hibernation) : Step (Option Model) :=
  match hibernation with
  | none => { screen, calls := [], result := none }
  | some hibernation =>
      let screen := { screen with hibernation := some hibernation }
      let model := screen.model.map fun model =>
        { model with autoRevoke := screen.autoRevokeFor model }
      { screen := { screen with model }, calls := [], result := model }

/-- Takes in usages. An empty list is passed over; before the groups are known others are only
kept. -/
def onUsages (screen : Screen) (moment : Moment) (usages : List AppUsage) : Step (Option Model) :=
  if usages.isEmpty then { screen, calls := [], result := screen.model }
  else
    let screen := { screen with usages }
    if screen.groups.isNone then { screen, calls := [], result := none }
    else
      let step := screen.refresh moment
      { step with result := some step.result }

/-- Handles an event. Usages that could not be loaded change nothing. -/
def handle (screen : Screen) (moment : Moment) : Event → Step (Except ScreenError Unit)
  | .groups groups =>
      let step := screen.onGroups moment groups
      { step with result := step.result.map fun _ => () }
  | .hibernation hibernation => { screen.onHibernation hibernation with result := .ok () }
  | .usages (.ok usages) => { screen.onUsages moment usages with result := .ok () }
  | .usages (.error _) => { screen, calls := [], result := .ok () }

/-- What activating an entry asks of the host, if anything. -/
def activate (screen : Screen) : Action → Option HostCall
  | .none => none
  | .openGroup group category => some (.openGroup screen.args group category)
  | .showAdditional args => some (.showAdditional args)
  | .viewUsage group => some (.viewUsage screen.args group)

/-- Turns revoking on or off, if there is a switch and it is enabled. -/
def setAutoRevoke (screen : Screen) (enabled : Bool) : Option HostCall :=
  match screen.model.bind (·.autoRevoke) with
  | some autoRevoke =>
      if autoRevoke.enabled then some (.setAutoRevoke screen.args enabled) else none
  | none => none

/-- Only the screen of the platform's groups has a menu. -/
def menu (screen : Screen) : List MenuItem :=
  if screen.args.isSystem then [.allPermissions, .help] else []

/-- Chooses from the menu. -/
def choose (screen : Screen) (item : MenuItem) : Option HostCall :=
  if item ∈ screen.menu then
    match item with
    | .allPermissions => some (.showAllPermissions screen.args)
    | .help => some (.showHelp screen.args)
  else none

/-- Handles events in turn, each at its moment, whatever comes of it. -/
def handleAll (screen : Screen) : List (Moment × Event) → Screen × List HostCall
  | [] => (screen, [])
  | (moment, event) :: rest =>
      let step := screen.handle moment event
      let later := step.screen.handleAll rest
      (later.1, step.calls ++ later.2)

theorem handleAll_append (screen : Screen) (first second : List (Moment × Event)) :
    screen.handleAll (first ++ second) =
      let front := screen.handleAll first
      let back := front.1.handleAll second
      (back.1, front.2 ++ back.2) := by
  induction first generalizing screen with
  | nil => rfl
  | cons event rest ih => simp [handleAll, ih]

end Screen
end PermissionScreen
