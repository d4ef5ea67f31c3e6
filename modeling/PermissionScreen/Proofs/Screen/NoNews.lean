import PermissionScreen.Proofs.Screen.History
import PermissionScreen.Proofs.Screen.Steps

/-!
Events that bring nothing.

A source may say that there is no app or that there are no settings of revoking, and a load of
usages may fail or find none. Only the first of these is an error, of which the screen tells its host
before it is left; the others pass without a word. None of them changes the screen, and so they leave
no trace that would show later either: they can be left out of a run, and what the other events come
to stays the same (`unmoved_by_idle`).
-/

namespace PermissionScreen

/-- Whether an event brings nothing. -/
def Event.isIdle : Event → Bool
  | .groups none | .hibernation none | .usages (.error _) | .usages (.ok []) => true
  | _ => false

/-- The events that bring something. -/
def History.withoutIdle (past : History) : History := past.filter (!·.2.isIdle)

namespace Screen

variable {screen : Screen}

/-- What a screen asks of its host when there is no app. -/
def farewell (config : Config) : List HostCall :=
  [.showError (config.messages.text .appNotFound), .navigateBack]

/-- What an event that brings nothing asks of the host. -/
def idleCalls (config : Config) : Event → List HostCall
  | .groups _ => farewell config
  | _ => []

/-- What each event of a run asks of the host. -/
def callsByEvent (screen : Screen) : History → List (Event × List HostCall)
  | [] => []
  | (moment, event) :: rest =>
      let step := screen.handle moment event
      (event, step.calls) :: step.screen.callsByEvent rest

/-- What a run asks of the host is what its events ask, one after the other. -/
theorem calls_handleAll_eq_flatMap (screen : Screen) (past : History) :
    (screen.handleAll past).2 = (screen.callsByEvent past).flatMap Prod.snd := by
  induction past generalizing screen with
  | nil => rfl
  | cons told rest ih =>
    rw [handleAll, callsByEvent, List.flatMap_cons]
    exact congrArg (_ ++ ·) (ih _)

/-! ### One event -/

/-- An event that brings nothing changes nothing. -/
theorem handle_of_isIdle (screen : Screen) (moment : Moment) {event : Event}
    (idle : event.isIdle = true) :
    (screen.handle moment event).screen = screen ∧
      (screen.handle moment event).calls = idleCalls screen.config event := by
  cases event with
  | groups listed =>
    cases listed with
    | none => exact ⟨rfl, rfl⟩
    | some groups => cases idle
  | hibernation settings =>
    cases settings with
    | none => exact ⟨rfl, rfl⟩
    | some hibernation => cases idle
  | usages result =>
    cases result with
    | error error => exact ⟨rfl, rfl⟩
    | ok usages =>
      cases usages with
      | nil => exact ⟨rfl, rfl⟩
      | cons report reports => cases idle

/-! ### A run -/

/-- The events that bring nothing make no difference to where a run ends. -/
theorem screen_handleAll_withoutIdle (screen : Screen) (past : History) :
    (screen.handleAll past.withoutIdle).1 = (screen.handleAll past).1 := by
  induction past generalizing screen with
  | nil => rfl
  | cons told rest ih =>
    obtain ⟨moment, event⟩ := told
    cases idle : event.isIdle with
    | true =>
      rw [History.withoutIdle, List.filter_cons_of_neg (by simp [idle]), handleAll,
        (screen.handle_of_isIdle moment idle).1]
      exact ih screen
    | false =>
      rw [History.withoutIdle, List.filter_cons_of_pos (by simp [idle])]
      exact ih _

/-- Nor do they to what the others ask of the host. -/
theorem callsByEvent_withoutIdle (screen : Screen) (past : History) :
    screen.callsByEvent past.withoutIdle =
      (screen.callsByEvent past).filter (!·.1.isIdle) := by
  induction past generalizing screen with
  | nil => rfl
  | cons told rest ih =>
    obtain ⟨moment, event⟩ := told
    cases idle : event.isIdle with
    | true =>
      rw [History.withoutIdle, List.filter_cons_of_neg (by simp [idle]), callsByEvent,
        List.filter_cons_of_neg (by simp [idle]), (screen.handle_of_isIdle moment idle).1]
      exact ih screen
    | false =>
      rw [History.withoutIdle, List.filter_cons_of_pos (by simp [idle]), callsByEvent,
        callsByEvent, List.filter_cons_of_pos (by simp [idle])]
      exact congrArg (_ :: ·) (ih _)

/-- Wherever in a run they are handled, they ask nothing but what they would ask at its start. -/
theorem idleCalls_of_mem_callsByEvent {past : History} {told : Event × List HostCall}
    (mem : told ∈ screen.callsByEvent past) (idle : told.1.isIdle = true) :
    told.2 = idleCalls screen.config told.1 := by
  induction past generalizing screen with
  | nil => exact absurd mem List.not_mem_nil
  | cons first rest ih =>
    obtain ⟨moment, event⟩ := first
    rcases List.mem_cons.mp mem with rfl | later
    · exact (screen.handle_of_isIdle moment idle).2
    · rw [ih later, (screen.args_config_handle moment event).2]

/-- What a screen does with events that bring nothing, whatever state it is in. -/
structure UnmovedByIdle (screen : Screen) : Prop where
  /-- That there is no app is the one error that there is. -/
  fails : ∀ moment event error, (screen.handle moment event).result = .error error ↔
    event = .groups none ∧ error = .appNotFound screen.args.package
  noApp : ∀ moment, screen.handle moment (.groups none) =
    ⟨screen, [.showError (screen.config.messages.text .appNotFound), .navigateBack],
      .error (.appNotFound screen.args.package)⟩
  noHibernation : ∀ moment, screen.handle moment (.hibernation none) = ⟨screen, [], .ok ()⟩
  failedLoad : ∀ moment error, screen.handle moment (.usages (.error error)) = ⟨screen, [], .ok ()⟩
  emptyLoad : ∀ moment, screen.handle moment (.usages (.ok [])) = ⟨screen, [], .ok ()⟩
  /-- Without these events a run ends in the same state. -/
  state : ∀ past : History,
    (screen.handleAll past.withoutIdle).1 = (screen.handleAll past).1
  /-- A run asks what its events ask, and without these events the others ask the same. -/
  calls : ∀ past : History,
    (screen.handleAll past).2 = (screen.callsByEvent past).flatMap Prod.snd ∧
      (screen.handleAll past.withoutIdle).2 =
        ((screen.callsByEvent past).filter (!·.1.isIdle)).flatMap Prod.snd
  /-- These events themselves ask nothing, or to show the error and go back. -/
  idle : ∀ past, ∀ told ∈ screen.callsByEvent past, told.1.isIdle = true →
    told.2 = match told.1 with
      | .groups _ => [.showError (screen.config.messages.text .appNotFound), .navigateBack]
      | _ => []

/-- **No trace.** An error leaves the screen as it was, and so does every other event that brings
nothing: a run comes to the same without them, but for what the host is told of the errors. -/
theorem unmoved_by_idle (screen : Screen) : UnmovedByIdle screen where
  fails := screen.result_handle_eq_error_iff
  noApp _ := rfl
  noHibernation _ := rfl
  failedLoad _ _ := rfl
  emptyLoad _ := rfl
  state := screen.screen_handleAll_withoutIdle
  calls past := by
    refine ⟨screen.calls_handleAll_eq_flatMap past, ?_⟩
    rw [calls_handleAll_eq_flatMap, callsByEvent_withoutIdle]
  idle _ _ mem isIdle := idleCalls_of_mem_callsByEvent mem isIdle

end Screen
end PermissionScreen
