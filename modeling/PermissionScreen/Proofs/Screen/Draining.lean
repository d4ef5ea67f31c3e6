import PermissionScreen.Feed
import PermissionScreen.Proofs.Screen.NoNews

/-!
How a screen takes the events that wait for it.

It handles them in turn, but stops behind one that fails. `Screen.handledBy` lists the events that
are handled on the way, and `Screen.drainsInOrder` says what these are: those that wait, in the same
order, up to the first that says that there is no app; and what comes of draining is what comes of
handling them.
-/

namespace PermissionScreen

/-- Events with the moments at which they are handled. -/
def timed (moments : Nat → Moment) (events : List Event) : History :=
  events.mapIdx fun n event => (moments n, event)

theorem timed_cons (moments : Nat → Moment) (event : Event) (rest : List Event) :
    timed moments (event :: rest) =
      (moments 0, event) :: timed (fun n => moments (n + 1)) rest :=
  List.mapIdx_cons

theorem map_snd_timed (moments : Nat → Moment) (events : List Event) :
    (timed moments events).map Prod.snd = events := by
  rw [timed, List.mapIdx_eq_zipIdx_map, List.map_map]
  exact List.zipIdx_map_fst 0 events

theorem now_timed {moments : Nat → Moment} {now : Int} (clock : ∀ n, (moments n).now = now)
    (events : List Event) : ∀ told ∈ timed moments events, told.1.now = now := by
  intro told mem
  obtain ⟨n, _, rfl⟩ := List.mem_mapIdx.mp mem
  exact clock n

namespace Screen

variable {screen : Screen}

/-- The events that are handled in the course of draining, the one that fails among them. -/
def handledBy (moments : Nat → Moment) (screen : Screen) : List Event → History
  | [] => []
  | event :: rest =>
      let step := screen.handle (moments 0) event
      (moments 0, event) ::
        match step.result with
        | .error _ => []
        | .ok _ => step.screen.handledBy (fun n => moments (n + 1)) rest

/-! ### One event -/

/-- An event that does not fail is handled, and then what waits behind it. -/
theorem drain_cons (screen : Screen) (moments : Nat → Moment) {event : Event}
    (sound : event ≠ .groups none) (rest : List Event) :
    screen.drain moments (event :: rest) =
      let step := screen.handle (moments 0) event
      let later := step.screen.drain (fun n => moments (n + 1)) rest
      { later with calls := step.calls ++ later.calls, handled := later.handled + 1 } := by
  rw [drain, screen.result_handle (moments 0) sound]

theorem handledBy_cons (screen : Screen) (moments : Nat → Moment) {event : Event}
    (sound : event ≠ .groups none) (rest : List Event) :
    screen.handledBy moments (event :: rest) =
      (moments 0, event) ::
        (screen.handle (moments 0) event).screen.handledBy (fun n => moments (n + 1)) rest := by
  rw [handledBy, screen.result_handle (moments 0) sound]

/-! ### All events that wait -/

/-- If there is no app, draining ends in this error, whatever else waits. -/
theorem error_drain (screen : Screen) (moments : Nat → Moment) {events : List Event}
    (mem : .groups none ∈ events) :
    (screen.drain moments events).error = some (.appNotFound screen.args.package) := by
  induction events generalizing screen moments with
  | nil => exact absurd mem List.not_mem_nil
  | cons event rest ih =>
    by_cases fails : event = .groups none
    · rw [fails]
      rfl
    · have later : .groups none ∈ rest := List.mem_of_ne_of_mem (Ne.symm fails) mem
      rw [drain_cons screen moments fails, ← (screen.args_config_handle (moments 0) event).1]
      exact ih _ _ later

/-- Without such an event, draining handles all events that wait. -/
theorem drain_eq_handleAll (screen : Screen) (moments : Nat → Moment) {events : List Event}
    (sound : .groups none ∉ events) :
    screen.drain moments events =
      let handled := screen.handleAll (timed moments events)
      ⟨handled.1, handled.2, events.length, none, []⟩ := by
  induction events generalizing screen moments with
  | nil => rfl
  | cons event rest ih =>
    obtain ⟨ne, later⟩ := List.ne_and_not_mem_of_not_mem_cons sound
    have behind := ih (screen.handle (moments 0) event).screen (fun n => moments (n + 1)) later
    rw [drain_cons screen moments ne.symm, timed_cons]
    simp only [behind]
    rfl

/-- Draining ends without an error exactly if nothing that waits says that there is no app. -/
theorem error_drain_eq_none_iff (screen : Screen) (moments : Nat → Moment) (events : List Event) :
    (screen.drain moments events).error = none ↔ .groups none ∉ events := by
  constructor
  · intro whole mem
    rw [screen.error_drain moments mem] at whole
    cases whole
  · intro sound
    rw [screen.drain_eq_handleAll moments sound]

/-- What draining does with the events that wait. -/
structure DrainsInOrder (moments : Nat → Moment) (screen : Screen) (waiting : List Event) :
    Prop where
  /-- It comes to what handling its events comes to. -/
  effect : screen.handleAll (screen.handledBy moments waiting) =
    ((screen.drain moments waiting).screen, (screen.drain moments waiting).calls)
  /-- Its events are the first that wait, and those behind them still wait. -/
  inOrder : (screen.handledBy moments waiting).map Prod.snd ++
    (screen.drain moments waiting).waiting = waiting
  /-- If there is no error, all events have been handled and counted. -/
  whole : (screen.drain moments waiting).error = none →
    (screen.handledBy moments waiting).length = (screen.drain moments waiting).handled ∧
      (screen.drain moments waiting).waiting = []
  /-- If there is one, the events have been handled up to the first that says that there is no
  app. -/
  upToFailure : ∀ {error}, (screen.drain moments waiting).error = some error →
    error = .appNotFound screen.args.package ∧
      ∃ before, .groups none ∉ before ∧
        (screen.handledBy moments waiting).map Prod.snd = before ++ [.groups none]

/-- An event that does not fail comes first, and all is as it is behind it. -/
theorem DrainsInOrder.cons {moments : Nat → Moment} {event : Event} {rest : List Event}
    (sound : event ≠ .groups none)
    (later : DrainsInOrder (fun n => moments (n + 1))
      (screen.handle (moments 0) event).screen rest) :
    DrainsInOrder moments screen (event :: rest) := by
  have drained := screen.drain_cons moments sound rest
  have handled := screen.handledBy_cons moments sound rest
  constructor
  · rw [drained, handled, handleAll, later.effect]
  · rw [drained, handled, List.map_cons, List.cons_append, later.inOrder]
  · intro whole
    rw [drained] at whole ⊢
    obtain ⟨length, none⟩ := later.whole whole
    rw [handled]
    exact ⟨congrArg (· + 1) length, none⟩
  · intro error failed
    rw [drained] at failed
    obtain ⟨noApp, before, absent, upTo⟩ := later.upToFailure failed
    rw [(screen.args_config_handle (moments 0) event).1] at noApp
    refine ⟨noApp, event :: before, ?_, ?_⟩
    · exact List.not_mem_cons_of_ne_of_not_mem (Ne.symm sound) absent
    · rw [handled, List.map_cons, upTo, List.cons_append]

theorem drainsInOrder (moments : Nat → Moment) (screen : Screen) (waiting : List Event) :
    DrainsInOrder moments screen waiting := by
  induction waiting generalizing screen moments with
  | nil => exact ⟨rfl, rfl, fun _ => ⟨rfl, rfl⟩, fun failed => (nomatch failed)⟩
  | cons event rest ih =>
    by_cases fails : event = .groups none
    · subst fails
      refine ⟨rfl, rfl, fun whole => (nomatch whole), fun failed => ?_⟩
      exact ⟨(Option.some.inj failed).symm, [], List.not_mem_nil, rfl⟩
    · exact .cons fails (ih _ _)

end Screen
end PermissionScreen
