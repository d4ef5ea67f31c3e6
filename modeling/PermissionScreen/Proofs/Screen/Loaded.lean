import PermissionScreen.Proofs.Screen.History
import PermissionScreen.Proofs.Screen.Steps
import PermissionScreen.Proofs.Usage.Lookback

/-!
Usages from a source that leaves out what is too old.

A source is asked for the uses from some time on. When its answer has come in, and whenever the
model is made anew after that, uses count from a later time, and what the source has left out would
not be recorded. So a screen that is sent the answers of such sources shows what it would show if it
were sent all that they have, and it asks its host for the same (`answered_shows_same`).
-/

namespace PermissionScreen

/-- An event with what its source gives when asked at a time, in place of all that it has. -/
def Event.answered (days : Nat) (asked : Int) : Event → Event
  | .usages (.ok reports) => .usages (.ok (loadUsages reports (lookbackBegin asked days)))
  | event => event

/-- An event that comes in some time after its source was asked. -/
structure Arrival where
  asked : Int
  moment : Moment
  event : Event

namespace Arrival

/-- The event with all that its source has. -/
def whole (arrival : Arrival) : Moment × Event := (arrival.moment, arrival.event)

/-- The event with what its source has given. -/
def answered (days : Nat) (arrival : Arrival) : Moment × Event :=
  (arrival.moment, arrival.event.answered days arrival.asked)

end Arrival

/-- Once a source has been asked, the clock does not go back behind that time. -/
structure ClockGoesOn (arrivals : List Arrival) : Prop where
  own : ∀ arrival ∈ arrivals, arrival.asked ≤ arrival.moment.now
  later : arrivals.Pairwise fun arrival later => arrival.asked ≤ later.moment.now

namespace Screen

variable {screen : Screen} {kept : List AppUsage}

/-- The same screen with other usages. -/
def keepingUsages (screen : Screen) (kept : List AppUsage) : Screen :=
  { screen with usages := kept }

/-- Whether other usages come to the same records at some time. -/
def CountsAlike (screen : Screen) (kept : List AppUsage) (now : Int) : Prop :=
  Records.extract kept screen.args.package (screen.usageBegin now) =
    Records.extract screen.usages screen.args.package (screen.usageBegin now)

theorem refresh_keepingUsages (moment : Moment) (alike : screen.CountsAlike kept moment.now) :
    (screen.keepingUsages kept).refresh moment =
      let step := screen.refresh moment
      { step with screen := step.screen.keepingUsages kept } := by
  have recounted : (screen.keepingUsages kept).recount moment.now =
      (screen.recount moment.now).keepingUsages kept := by
    rw [recount, recount, keepingUsages, keepingUsages, Screen.mk.injEq]
    exact ⟨rfl, rfl, rfl, rfl, rfl, alike, rfl, rfl⟩
  rw [refresh, recounted]
  rfl

/-- Reports that come in before there are groups are kept. -/
theorem handle_usages_of_unknown (unknown : screen.groups = none) (moment : Moment)
    {usages : List AppUsage} (brought : usages.isEmpty = false) :
    screen.handle moment (.usages (.ok usages)) = ⟨screen.keepingUsages usages, [], .ok ()⟩ := by
  simp [handle, onUsages, keepingUsages, brought, unknown]

/-- Once there are groups they have the model made anew. -/
theorem handle_usages_of_known (known : screen.groups.isSome) (moment : Moment)
    {usages : List AppUsage} (brought : usages.isEmpty = false) :
    screen.handle moment (.usages (.ok usages)) =
      let step := (screen.keepingUsages usages).refresh moment
      { step with result := .ok () } := by
  obtain ⟨groups, known⟩ := Option.isSome_iff_exists.mp known
  simp [handle, onUsages, keepingUsages, brought, known]

/-- Usages that an event brings are kept in place of others. -/
theorem usages_handle (screen : Screen) (moment : Moment) (event : Event) :
    (screen.handle moment event).screen.usages = event.newUsages?.getD screen.usages := by
  cases event with
  | groups listed => cases listed <;> rfl
  | hibernation settings => cases settings <;> rfl
  | usages result =>
    cases result with
    | error error => rfl
    | ok usages =>
      cases usages with
      | nil => rfl
      | cons report reports =>
        cases known : screen.groups with
        | none =>
          rw [handle_usages_of_unknown known moment rfl]
          rfl
        | some groups =>
          rw [handle_usages_of_known (known ▸ rfl) moment rfl]
          rfl

/-- Reports come to the same whether the source has left out what was too old when it was asked. -/
theorem handle_loaded (kept : List AppUsage) (moment : Moment) {asked : Int}
    (asked_le : asked ≤ moment.now) {usages : List AppUsage} (brought : usages.isEmpty = false) :
    let loaded := loadUsages usages (screen.usageBegin asked)
    (screen.keepingUsages kept).handle moment (.usages (.ok loaded)) =
      let step := screen.handle moment (.usages (.ok usages))
      { step with screen := step.screen.keepingUsages loaded } := by
  intro loaded
  have answered : loaded.isEmpty = false := (List.isEmpty_map).trans brought
  cases known : screen.groups with
  | none =>
    have known' : (screen.keepingUsages kept).groups = none := known
    rw [handle_usages_of_unknown known moment brought,
      handle_usages_of_unknown known' moment answered]
    rfl
  | some groups =>
    have known : screen.groups.isSome := known ▸ rfl
    have known' : (screen.keepingUsages kept).groups.isSome := known
    have alike : (screen.keepingUsages usages).CountsAlike loaded moment.now :=
      Records.extract_loadUsages _ _ (lookbackBegin_mono _ asked_le)
    have overwritten : (screen.keepingUsages kept).keepingUsages loaded =
        (screen.keepingUsages usages).keepingUsages loaded := rfl
    rw [handle_usages_of_known known moment brought,
      handle_usages_of_known known' moment answered, overwritten,
      refresh_keepingUsages moment alike]

/-- One event: what a screen does is the same whether the sources have left out what was too old or
not, if so far there has been no difference either. -/
theorem handle_answered (moment : Moment) (event : Event) {asked : Int}
    (asked_le : asked ≤ moment.now) (alike : screen.CountsAlike kept moment.now) :
    let answered := event.answered screen.config.lookbackDays.toNat asked
    (screen.keepingUsages kept).handle moment answered =
      let step := screen.handle moment event
      { step with screen := step.screen.keepingUsages (answered.newUsages?.getD kept) } := by
  cases event with
  | groups listed =>
    cases listed with
    | none => rfl
    | some groups =>
      let told : Screen := { screen with groups := some groups }
      have refreshed := told.refresh_keepingUsages moment alike
      exact congrArg
        (fun step : Step Model => (⟨step.screen, step.calls, .ok ()⟩ : Step (Except _ _))) refreshed
  | hibernation settings => cases settings <;> rfl
  | usages result =>
    cases result with
    | error error => rfl
    | ok usages =>
      cases usages with
      | nil => rfl
      | cons report reports => exact handle_loaded kept moment asked_le rfl

/-- After the event there is no difference either, at any time that comes after it was asked for. -/
theorem countsAlike_handle (moment : Moment) (event : Event) {asked now : Int}
    (asked_le : asked ≤ now) (alike : screen.CountsAlike kept now) :
    (screen.handle moment event).screen.CountsAlike
      ((event.answered screen.config.lookbackDays.toNat asked).newUsages?.getD kept) now := by
  obtain ⟨args, config⟩ := screen.args_config_handle moment event
  rw [CountsAlike, usageBegin, usages_handle, args, config]
  cases event with
  | usages result =>
    cases result with
    | error error => exact alike
    | ok usages =>
      cases usages with
      | nil => exact alike
      | cons report reports =>
        exact Records.extract_loadUsages _ _ (lookbackBegin_mono _ asked_le)
  | _ => exact alike

/-- A run: the sources may leave out what is too old when they are asked. -/
theorem handleAll_answered (screen : Screen) (kept : List AppUsage) {arrivals : List Arrival}
    (clock : ClockGoesOn arrivals)
    (alike : ∀ arrival ∈ arrivals, screen.CountsAlike kept arrival.moment.now) :
    ∃ kept', (screen.keepingUsages kept).handleAll
        (arrivals.map (Arrival.answered screen.config.lookbackDays.toNat)) =
      let whole := screen.handleAll (arrivals.map Arrival.whole)
      (whole.1.keepingUsages kept', whole.2) := by
  induction arrivals generalizing screen kept with
  | nil => exact ⟨kept, rfl⟩
  | cons arrival rest ih =>
    obtain ⟨own, rest_own⟩ := List.forall_mem_cons.mp clock.own
    obtain ⟨later, rest_later⟩ := List.pairwise_cons.mp clock.later
    obtain ⟨now, rest_alike⟩ := List.forall_mem_cons.mp alike
    let step := screen.handle arrival.moment arrival.event
    have config : step.screen.config = screen.config :=
      (screen.args_config_handle arrival.moment arrival.event).2
    have next : ∀ other ∈ rest, step.screen.CountsAlike _ other.moment.now := fun other mem =>
      countsAlike_handle arrival.moment arrival.event (later other mem) (rest_alike other mem)
    obtain ⟨kept', run⟩ := ih _ _ ⟨rest_own, rest_later⟩ next
    rw [config] at run
    refine ⟨kept', ?_⟩
    rw [List.map_cons, List.map_cons, Arrival.answered, Arrival.whole, handleAll, handleAll]
    simp only [handle_answered arrival.moment arrival.event own now]
    rw [run]

end Screen

/-- **What a source leaves out.** If the clock has not gone back since a source was asked, records
are the same whether it has left out what was too old or not; and it leaves out uses but no reports.
So a screen shows the same and asks its host for the same, whatever comes in and in which order. -/
theorem answered_shows_same :
    (∀ (usages : List AppUsage) (package : String) (days : Nat) (asked now : Int), asked ≤ now →
      Records.extract (loadUsages usages (lookbackBegin asked days)) package
          (lookbackBegin now days) =
        Records.extract usages package (lookbackBegin now days)) ∧
    (∀ (usages : List AppUsage) (since : Int), loadUsages usages since = [] ↔ usages = []) ∧
    ∀ (screen : Screen) (arrivals : List Arrival), ClockGoesOn arrivals →
      let days := screen.config.lookbackDays.toNat
      let whole := screen.handleAll (arrivals.map Arrival.whole)
      let answered := screen.handleAll (arrivals.map (Arrival.answered days))
      answered.1 = { whole.1 with usages := answered.1.usages } ∧ answered.2 = whole.2 := by
  refine ⟨?_, ?_, ?_⟩
  · intro usages package days asked now le
    exact Records.extract_loadUsages usages package (lookbackBegin_mono days le)
  · intro usages since
    exact loadUsages_eq_nil_iff
  · intro screen arrivals clock
    have own : screen.keepingUsages screen.usages = screen := rfl
    obtain ⟨kept, run⟩ := screen.handleAll_answered screen.usages clock fun _ _ => rfl
    rw [own] at run
    simp only [run]
    exact ⟨rfl, trivial⟩

/-- Reports of which one use is a day old when they come in. -/
def agedReports : List AppUsage := [⟨"app", [⟨"camera", 30000⟩, ⟨"phone", 86400000⟩]⟩]

/-- Groups, and reports that were asked for a minute before they come in. -/
def slowLoad : List Arrival :=
  [⟨0, ⟨86400000, 1⟩, .groups (some (Groups.empty.set .allowed [⟨"camera", .plain, true⟩]))⟩,
    ⟨86460000, ⟨86520000, 2⟩, .usages (.ok agedReports)⟩]

theorem clockGoesOn_slowLoad : ClockGoesOn slowLoad where
  own := by decide
  later := by decide

/-- The source has left out what is a day old. -/
theorem answered_shows_same_slowLoad :
    let screen : Screen := { args := Args.ofPackage "app" 0 1, config := {} }
    let answered := screen.handleAll (slowLoad.map (Arrival.answered 1))
    let whole := screen.handleAll (slowLoad.map Arrival.whole)
    loadUsages agedReports (lookbackBegin 86460000 1) ≠ agedReports ∧
      (86460000 : Int) ≤ 86520000 ∧
      Records.extract (loadUsages agedReports (lookbackBegin 86460000 1)) "app"
          (lookbackBegin 86520000 1) =
        Records.extract agedReports "app" (lookbackBegin 86520000 1) ∧
      ClockGoesOn slowLoad ∧
      answered.1 = { whole.1 with usages := answered.1.usages } ∧ answered.2 = whole.2 :=
  ⟨by decide, by decide, answered_shows_same.1 agedReports "app" 1 86460000 86520000 (by decide),
    clockGoesOn_slowLoad, answered_shows_same.2.2 _ slowLoad clockGoesOn_slowLoad⟩

end PermissionScreen
