import Mathlib.Data.List.Induction
import Mathlib.Data.List.TakeWhile
import PermissionScreen.Screen.Basic

/-!
What a screen keeps of its past.

A screen handles events one by one, and each changes a part of it: some only leave something for
later, some have the model made anew, and one changes the model in place. Nevertheless its state is
that of a screen that has been told once, and at once, the latest that each source has brought
(`handleAll_eq_after`).

* `after_handle`: one event takes the state that goes with a past to the one that goes with the
  past and the event.
* `renders_handleAll`: what this says about the model and the records.
-/

namespace PermissionScreen

/-- Events in the order in which they are handled, each with its moment. -/
abbrev History := List (Moment × Event)

/-! ### What events bring -/

namespace Event

/-- The groups that an event brings. -/
def newGroups? : Event → Option Groups
  | .groups listed => listed
  | _ => none

/-- The settings of revoking that an event brings. -/
def newHibernation? : Event → Option Hibernation
  | .hibernation settings => settings
  | _ => none

/-- The usages that an event brings. A load that has failed brings none, nor does an empty list. -/
def newUsages? : Event → Option (List AppUsage)
  | .usages (.ok reports) => if reports.isEmpty then none else some reports
  | _ => none

end Event

namespace History

variable {α : Type}

/-- The last of what some events bring. -/
def latest? (past : History) (brings : Event → Option α) : Option α :=
  (past.filterMap fun told => brings told.2).getLast?

/-- The usages that were brought last. -/
def latestUsages (past : History) : List AppUsage := (past.latest? Event.newUsages?).getD []

/-- The time of the last event that brought groups or, once groups had been brought, usages. -/
def renderTime? (past : History) : Option Int :=
  ((past.dropWhile (·.2.newGroups?.isNone)).filter fun told =>
    told.2.newGroups?.isSome || told.2.newUsages?.isSome).getLast?.map (·.1.now)

/-- What an event brings takes the place of what was brought before. -/
theorem latest?_snoc (past : History) (brings : Event → Option α) (moment : Moment)
    (event : Event) :
    latest? (past ++ [(moment, event)]) brings = (brings event).or (past.latest? brings) := by
  rw [latest?, List.filterMap_append]
  cases brought : brings event with
  | none => simp [latest?, brought]
  | some new => simp [brought]

theorem latest?_eq_none_iff {past : History} {brings : Event → Option α} :
    past.latest? brings = none ↔ ∀ told ∈ past, brings told.2 = none := by
  rw [latest?, List.getLast?_eq_none_iff, List.filterMap_eq_nil_iff]

/-- Groups have been brought exactly if something is left when the events before the first groups
are dropped. -/
theorem dropWhile_eq_nil_iff {past : History} :
    past.dropWhile (·.2.newGroups?.isNone) = [] ↔ past.latest? Event.newGroups? = none := by
  rw [List.dropWhile_eq_nil_iff, latest?_eq_none_iff]
  simp only [Option.isNone_iff_eq_none]

/-- An event has the model made anew if it brings groups, or usages once there are groups. -/
theorem renderTime?_snoc (past : History) (moment : Moment) (event : Event) :
    renderTime? (past ++ [(moment, event)]) =
      if event.newGroups?.isSome ∨
          ((past.latest? Event.newGroups?).isSome ∧ event.newUsages?.isSome) then
        some moment.now
      else past.renderTime? := by
  rw [renderTime?, renderTime?, List.dropWhile_append]
  cases known : past.latest? Event.newGroups? with
  | none =>
    rw [dropWhile_eq_nil_iff.mpr known]
    cases brought : event.newGroups? <;> simp [brought]
  | some groups =>
    have rest : past.dropWhile (·.2.newGroups?.isNone) ≠ [] := by
      rw [Ne, dropWhile_eq_nil_iff, known]
      exact Option.some_ne_none groups
    rw [if_neg (by simpa using rest), List.filter_append]
    cases brought : event.newGroups? <;> cases used : event.newUsages? <;>
      simp [brought, used]

/-- There is a time at which the model was made exactly if groups have been brought. -/
theorem renderTime?_isSome (past : History) :
    past.renderTime?.isSome = (past.latest? Event.newGroups?).isSome := by
  induction past using List.reverseRecOn with
  | nil => rfl
  | append_singleton past told ih =>
    obtain ⟨moment, event⟩ := told
    rw [renderTime?_snoc, latest?_snoc]
    cases brought : event.newGroups? with
    | some groups => simp
    | none =>
      cases known : latest? past Event.newGroups? with
      | none => simpa [known] using ih
      | some groups => split <;> simp [ih, known]

end History

/-! ### The state that goes with a past -/

namespace Screen

variable {args : Args} {config : Config} {past : History}

/-- A screen that keeps the latest from each source and has not made anything of it. -/
def keeping (args : Args) (config : Config) (past : History) : Screen where
  args := args
  config := config
  groups := past.latest? Event.newGroups?
  hibernation := past.latest? Event.newHibernation?
  usages := past.latestUsages
  firstLoad := (past.latest? Event.newGroups?).isNone

/-- The screen after a past: it keeps the latest from each source, and its records and its model are
made of that at the time that the past tells. -/
def after (args : Args) (config : Config) (past : History) : Screen :=
  match past.renderTime? with
  | none => keeping args config past
  | some time =>
      let counted := (keeping args config past).recount time
      { counted with model := some (counted.render time) }

/-- There is a model as soon as there is a time at which to make it. -/
theorem model_after (args : Args) (config : Config) (past : History) :
    (after args config past).model =
      past.renderTime?.map fun time => ((keeping args config past).recount time).render time := by
  unfold after
  cases past.renderTime? <;> rfl

/-- An event that brings nothing leaves no trace. -/
theorem after_snoc_of_none (moment : Moment) {event : Event} (groups : event.newGroups? = none)
    (hibernation : event.newHibernation? = none) (usages : event.newUsages? = none) :
    after args config (past ++ [(moment, event)]) = after args config past := by
  simp [after, keeping, History.latestUsages, History.latest?_snoc, History.renderTime?_snoc,
    groups, hibernation, usages]

theorem after_snoc_groups (moment : Moment) (groups : Groups) :
    after args config (past ++ [(moment, .groups (some groups))]) =
      ({ after args config past with groups := some groups }.refresh moment).screen := by
  simp only [after, keeping, History.latestUsages, History.latest?_snoc, History.renderTime?_snoc]
  cases past.renderTime? <;> rfl

theorem after_snoc_hibernation (moment : Moment) (hibernation : Hibernation) :
    after args config (past ++ [(moment, .hibernation (some hibernation))]) =
      ((after args config past).onHibernation (some hibernation)).screen := by
  have time : History.renderTime? (past ++ [(moment, .hibernation (some hibernation))]) =
      past.renderTime? := by
    rw [History.renderTime?_snoc]
    exact if_neg (by simp [Event.newGroups?, Event.newUsages?])
  simp only [after, keeping, History.latestUsages, History.latest?_snoc, time]
  cases past.renderTime? <;> rfl

theorem after_snoc_usages (moment : Moment) {usages : List AppUsage}
    (nonempty : usages.isEmpty = false) :
    after args config (past ++ [(moment, .usages (.ok usages))]) =
      ((after args config past).onUsages moment usages).screen := by
  have brings : (Event.usages (.ok usages)).newUsages? = some usages := by
    simp [Event.newUsages?, nonempty]
  have none : (Event.usages (.ok usages)).newGroups? = none := rfl
  have rendered := past.renderTime?_isSome
  cases known : past.latest? Event.newGroups? with
  | none =>
    -- The usages wait for groups to come.
    have time : past.renderTime? = .none := by simpa [known] using rendered
    simp [after, keeping, onUsages, History.latestUsages, History.latest?_snoc,
      History.renderTime?_snoc, brings, none, known, time, nonempty, Event.newHibernation?]
  | some groups =>
    rw [known] at rendered
    obtain ⟨time, rendered⟩ := Option.isSome_iff_exists.mp rendered
    simp only [after, keeping, onUsages, History.latestUsages, History.latest?_snoc,
      History.renderTime?_snoc, brings, none, known, rendered, nonempty]
    rfl

/-- One event: the screen goes on from what goes with its past to what goes with its past and the
event. -/
theorem after_handle (args : Args) (config : Config) (past : History) (moment : Moment)
    (event : Event) :
    ((after args config past).handle moment event).screen =
      after args config (past ++ [(moment, event)]) := by
  cases event with
  | groups listed =>
    cases listed with
    | none => exact (after_snoc_of_none moment rfl rfl rfl).symm
    | some groups => exact (after_snoc_groups moment groups).symm
  | hibernation settings =>
    cases settings with
    | none => exact (after_snoc_of_none moment rfl rfl rfl).symm
    | some hibernation => exact (after_snoc_hibernation moment hibernation).symm
  | usages result =>
    cases result with
    | error error => exact (after_snoc_of_none moment rfl rfl rfl).symm
    | ok usages =>
      cases empty : usages.isEmpty with
      | false => exact (after_snoc_usages moment empty).symm
      | true =>
        rw [after_snoc_of_none moment rfl rfl (by simp [Event.newUsages?, empty])]
        simp [handle, onUsages, empty]

/-- Any number of events, in any order and at any moments. -/
theorem handleAll_eq_after (args : Args) (config : Config) (past : History) :
    (({ args, config } : Screen).handleAll past).1 = after args config past := by
  induction past using List.reverseRecOn with
  | nil => rfl
  | append_singleton past told ih =>
    obtain ⟨moment, event⟩ := told
    rw [handleAll_append, ← after_handle, ← ih]
    rfl

/-- What a screen shows after a past: nothing before there are groups, then the sections of the
latest groups and the switch for the latest settings, by the latest usages at the time at which the
model was made last. -/
structure Renders (args : Args) (config : Config) (past : History) (screen : Screen) : Prop where
  unknown : past.latest? Event.newGroups? = none →
    screen.model = none ∧ screen.records = Records.empty
  known : ∀ {groups}, past.latest? Event.newGroups? = some groups →
    ∃ time model, past.renderTime? = some time ∧ screen.model = some model ∧
      screen.records = Records.extract past.latestUsages args.package
        (lookbackBegin time config.lookbackDays.toNat) ∧
      model.sections = Scene.sections ⟨config, args, screen.records, time⟩ groups ∧
      model.autoRevoke = (past.latest? Event.newHibernation?).bind fun hibernation =>
        hibernation.autoRevoke? (model.section? .allowed) config.messages

/-- **What the screen shows.** However the events of the sources have come in, and whatever the
clock said, the screen shows what the latest from each source make. -/
theorem renders_handleAll (args : Args) (config : Config) (past : History) :
    Renders args config past (({ args, config } : Screen).handleAll past).1 := by
  rw [handleAll_eq_after]
  have rendered := past.renderTime?_isSome
  constructor
  · intro unknown
    have time : past.renderTime? = none := by simpa [unknown] using rendered
    simp only [after, time]
    exact ⟨rfl, rfl⟩
  · intro groups known
    rw [known] at rendered
    obtain ⟨time, rendered⟩ := Option.isSome_iff_exists.mp rendered
    have listed : (keeping args config past).groups = some groups := known
    let counted := (keeping args config past).recount time
    have state : after args config past = { counted with model := some (counted.render time) } := by
      simp only [after, rendered, counted]
    rw [state]
    refine ⟨time, counted.render time, rendered, rfl, rfl, ?_, rfl⟩
    have sections : (counted.render time).sections =
        Scene.sections ⟨config, args, counted.records, time⟩ (counted.groups.getD Groups.empty) :=
      rfl
    rw [sections, show counted.groups = some groups from listed, Option.getD_some]

end Screen

end PermissionScreen
