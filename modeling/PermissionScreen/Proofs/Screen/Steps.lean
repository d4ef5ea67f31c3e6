import PermissionScreen.Screen.Basic

/-!
What one event can do, whatever state the screen is in.

Usages are passed over, kept, or have the model made anew (`onUsages_cases`); the one event that
fails is that there is no app (`result_handle_eq_error_iff`); and what a screen is made for no event
changes (`args_config_handle`).
-/

namespace PermissionScreen
namespace Screen

/-- What usages do: an empty list nothing; others are kept until there are groups, and have the model
made anew if there are. -/
theorem onUsages_cases (screen : Screen) (moment : Moment) (usages : List AppUsage) :
    screen.onUsages moment usages = ⟨screen, [], screen.model⟩ ∨
      (screen.groups = none ∧
        screen.onUsages moment usages = ⟨{ screen with usages }, [], none⟩) ∨
      ∃ groups, screen.groups = some groups ∧
        screen.onUsages moment usages =
          let step := { screen with usages }.refresh moment
          { step with result := some step.result } := by
  unfold onUsages
  cases usages.isEmpty with
  | true => exact .inl rfl
  | false =>
    cases screen.groups with
    | none => exact .inr (.inl ⟨rfl, rfl⟩)
    | some groups => exact .inr (.inr ⟨groups, rfl, rfl⟩)

/-- An event fails only if it says that there is no app. -/
theorem result_handle (screen : Screen) (moment : Moment) {event : Event}
    (sound : event ≠ .groups none) : (screen.handle moment event).result = .ok () := by
  cases event with
  | groups listed =>
    cases listed with
    | none => exact absurd rfl sound
    | some groups => rfl
  | hibernation settings => rfl
  | usages result => cases result <;> rfl

/-- If there is no app, this is the error. -/
theorem result_handle_eq_error_iff (screen : Screen) (moment : Moment) (event : Event)
    (error : ScreenError) :
    (screen.handle moment event).result = .error error ↔
      event = .groups none ∧ error = .appNotFound screen.args.package := by
  by_cases fails : event = .groups none
  · subst fails
    have result : (screen.handle moment (.groups none)).result =
        .error (.appNotFound screen.args.package) := rfl
    rw [result, Except.error.injEq]
    exact ⟨fun eq => ⟨rfl, eq.symm⟩, fun eq => eq.2.symm⟩
  · rw [screen.result_handle moment fails]
    exact ⟨nofun, fun eq => absurd eq.1 fails⟩

/-- No event changes what a screen is made for. -/
theorem args_config_handle (screen : Screen) (moment : Moment) (event : Event) :
    (screen.handle moment event).screen.args = screen.args ∧
      (screen.handle moment event).screen.config = screen.config := by
  cases event with
  | groups listed => cases listed <;> exact ⟨rfl, rfl⟩
  | hibernation settings => cases settings <;> exact ⟨rfl, rfl⟩
  | usages result =>
    cases result with
    | error error => exact ⟨rfl, rfl⟩
    | ok usages =>
      rcases screen.onUsages_cases moment usages with eq | ⟨_, eq⟩ | ⟨groups, _, eq⟩
      all_goals
        rw [handle, eq]
        exact ⟨rfl, rfl⟩

/-- Nor does a run. -/
theorem args_handleAll (screen : Screen) (past : List (Moment × Event)) :
    (screen.handleAll past).1.args = screen.args := by
  induction past generalizing screen with
  | nil => rfl
  | cons told rest ih => exact (ih _).trans (screen.args_config_handle told.1 told.2).1

end Screen
end PermissionScreen
