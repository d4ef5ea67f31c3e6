import PermissionScreen.CommandLine
import PermissionScreen.Proofs.Screen.Calls
import PermissionScreen.Proofs.Screen.Draining

/-!
The order of arrival.

Three sources send events to a screen, and nothing says in which order those of different sources
arrive; only what one source sends stays in order. By a clock that stands still the order makes no
difference: not to what the screen shows and keeps on record, nor to what it asks of its host, nor
to what comes of a snapshot on the command line (`arrival_order_irrelevant`).

A screen may still be told that there is no app, and then goes on; the command line ends there.
-/

namespace PermissionScreen

/-! ### Events of three sources -/

/-- What an event says that the source of the settings of revoking has sent. -/
def Event.sentHibernation? : Event → Option (Option Hibernation)
  | .hibernation settings => some settings
  | _ => none

/-- What an event says that has come of a load of usages. -/
def Event.sentUsages? : Event → Option (Except ScreenError (List AppUsage))
  | .usages result => some result
  | _ => none

/-- The usages that are brought by what has come of a load. -/
def usagesOf? : Except ScreenError (List AppUsage) → Option (List AppUsage)
  | .ok usages => if usages.isEmpty then none else some usages
  | .error _ => none

theorem Event.newGroups?_eq (event : Event) : event.newGroups? = event.sentGroups?.bind id := by
  cases event <;> rfl

theorem Event.newHibernation?_eq (event : Event) :
    event.newHibernation? = event.sentHibernation?.bind id := by
  cases event <;> rfl

theorem Event.newUsages?_eq (event : Event) :
    event.newUsages? = event.sentUsages?.bind usagesOf? := by
  cases event with
  | usages result => cases result <;> rfl
  | _ => rfl

/-- Events in some order that keeps the order of each source. -/
structure Interleaves (listed : List (Option Groups)) (settings : List (Option Hibernation))
    (loads : List (Except ScreenError (List AppUsage))) (events : List Event) : Prop where
  groups : events.filterMap Event.sentGroups? = listed
  hibernation : events.filterMap Event.sentHibernation? = settings
  usages : events.filterMap Event.sentUsages? = loads

namespace History

variable {α β : Type} {past first second : History} {now : Int}

/-- What was brought last depends only on what a source has sent, if what an event brings does. -/
theorem latest?_congr {brings : Event → Option α} {sent : Event → Option β}
    {new : β → Option α} (source : ∀ event, brings event = (sent event).bind new)
    (same : (first.map Prod.snd).filterMap sent = (second.map Prod.snd).filterMap sent) :
    first.latest? brings = second.latest? brings := by
  have bySource : ∀ past : History,
      past.filterMap (fun told => brings told.2) =
        ((past.map Prod.snd).filterMap sent).filterMap new := by
    intro past
    rw [List.filterMap_filterMap, List.filterMap_map]
    exact List.filterMap_congr fun told _ => source told.2
  rw [latest?, latest?, bySource, bySource, same]

theorem renderTime?_mem {time : Int} (rendered : past.renderTime? = some time) :
    ∃ told ∈ past, told.1.now = time := by
  obtain ⟨told, last, eq⟩ := Option.map_eq_some_iff.mp rendered
  have mem := List.mem_of_mem_filter (List.mem_of_getLast? last)
  exact ⟨told, (List.dropWhile_sublist _).subset mem, eq⟩

/-- By a clock that stands still the model is made at the time that the clock shows. -/
theorem renderTime?_of_clock (clock : ∀ told ∈ past, told.1.now = now) :
    past.renderTime? = (past.latest? Event.newGroups?).map fun _ => now := by
  have rendered := past.renderTime?_isSome
  cases known : past.latest? Event.newGroups? with
  | none => simpa [known] using rendered
  | some groups =>
    rw [known] at rendered
    obtain ⟨time, rendered⟩ := Option.isSome_iff_exists.mp rendered
    obtain ⟨told, mem, rfl⟩ := renderTime?_mem rendered
    rw [rendered, clock told mem]
    rfl

end History

namespace Interleaves

variable {listed : List (Option Groups)} {settings : List (Option Hibernation)}
  {loads : List (Except ScreenError (List AppUsage))} {first second : History} {now : Int}

/-- By a clock that stands still a screen is the same after all interleavings. -/
theorem after_eq (args : Args) (config : Config)
    (order : Interleaves listed settings loads (first.map Prod.snd))
    (other : Interleaves listed settings loads (second.map Prod.snd))
    (clock : ∀ told ∈ first, told.1.now = now) (otherClock : ∀ told ∈ second, told.1.now = now) :
    Screen.after args config first = Screen.after args config second := by
  have groups : first.latest? Event.newGroups? = second.latest? Event.newGroups? :=
    History.latest?_congr Event.newGroups?_eq (order.groups.trans other.groups.symm)
  have hibernation : first.latest? Event.newHibernation? =
      second.latest? Event.newHibernation? :=
    History.latest?_congr Event.newHibernation?_eq
      (order.hibernation.trans other.hibernation.symm)
  have usages : first.latest? Event.newUsages? = second.latest? Event.newUsages? :=
    History.latest?_congr Event.newUsages?_eq (order.usages.trans other.usages.symm)
  have time : first.renderTime? = second.renderTime? := by
    rw [History.renderTime?_of_clock clock, History.renderTime?_of_clock otherClock, groups]
  simp only [Screen.after, Screen.keeping, History.latestUsages, groups, hibernation, usages, time]

/-- Whatever the clock says, a screen asks the same of its host in all interleavings. -/
theorem calls_eq {screen : Screen} (settled : screen.Settled)
    (order : Interleaves listed settings loads (first.map Prod.snd))
    (other : Interleaves listed settings loads (second.map Prod.snd)) :
    (screen.handleAll first).2.map HostCall.withoutView =
      (screen.handleAll second).2.map HostCall.withoutView := by
  rw [Screen.calls_handleAll settled, Screen.calls_handleAll settled, order.groups, other.groups]

end Interleaves

/-! ### Draining a queue -/

/-- Whether there is an event that fails is for the source of the groups to say. -/
theorem Interleaves.groups_none_mem_iff {listed : List (Option Groups)}
    {settings : List (Option Hibernation)} {loads : List (Except ScreenError (List AppUsage))}
    {events : List Event} (order : Interleaves listed settings loads events) :
    .groups none ∈ events ↔ none ∈ listed := by
  rw [← order.groups, List.mem_filterMap]
  constructor
  · intro mem
    exact ⟨_, mem, rfl⟩
  · rintro ⟨event, mem, sent⟩
    cases event with
    | groups listed => rwa [Option.some.inj sent] at mem
    | hibernation settings => exact absurd sent nofun
    | usages result => exact absurd sent nofun

/-! ### The command line -/

/-- A snapshot has the usages loaded last. -/
theorem Snapshot.screen_eq (snapshot : Snapshot) (moment : Moment) :
    snapshot.screen moment =
      let fresh : Screen := { args := snapshot.args, config := snapshot.config }
      fresh.drain (fun _ => moment)
        [.groups snapshot.groups, .hibernation snapshot.hibernation,
          .usages (.ok (loadUsages snapshot.usages (fresh.usageBegin moment.now)))] :=
  rfl

/-- The command line comes to the same end by all interleavings, also where it ends in an error. -/
theorem Interleaves.outcome_eq {listed : List (Option Groups)}
    {settings : List (Option Hibernation)} {loads : List (Except ScreenError (List AppUsage))}
    {first second : List Event} (args : Args) (config : Config)
    (order : Interleaves listed settings loads first)
    (other : Interleaves listed settings loads second) {now : Int} {moments others : Nat → Moment}
    (clock : ∀ n, (moments n).now = now) (otherClock : ∀ n, (others n).now = now) :
    CommandLine.outcome (({ args, config } : Screen).drain moments first) =
      CommandLine.outcome (({ args, config } : Screen).drain others second) := by
  let fresh : Screen := { args, config }
  by_cases fails : none ∈ listed
  · have firstError := fresh.error_drain moments (order.groups_none_mem_iff.mpr fails)
    have secondError := fresh.error_drain others (other.groups_none_mem_iff.mpr fails)
    rw [CommandLine.outcome, CommandLine.outcome, firstError, secondError]
  · have firstSound := mt order.groups_none_mem_iff.mp fails
    have secondSound := mt other.groups_none_mem_iff.mp fails
    have same : Screen.after args config (timed moments first) =
        Screen.after args config (timed others second) := by
      rw [← map_snd_timed moments first] at order
      rw [← map_snd_timed others second] at other
      exact order.after_eq args config other (now_timed clock first) (now_timed otherClock second)
    rw [Screen.drain_eq_handleAll _ _ firstSound, Screen.drain_eq_handleAll _ _ secondSound]
    simp only [CommandLine.outcome, Screen.handleAll_eq_after, same]

/-- **The order of arrival.** By a clock that stands still, fresh screens that are told the same by
each source end alike and ask the same of their hosts, in whatever order the sources come in; and the
command line comes to the end that a snapshot leads to wherever in between its usages are loaded. -/
theorem arrival_order_irrelevant :
    (∀ (args : Args) (config : Config) (now : Int) (listed : List (Option Groups))
        (settings : List (Option Hibernation)) (loads : List (Except ScreenError (List AppUsage)))
        (first second : History),
      Interleaves listed settings loads (first.map Prod.snd) →
      Interleaves listed settings loads (second.map Prod.snd) →
      (∀ told ∈ first, told.1.now = now) → (∀ told ∈ second, told.1.now = now) →
      let fresh : Screen := { args, config }
      let one := fresh.handleAll first
      let other := fresh.handleAll second
      one.1.model = other.1.model ∧ one.1.records = other.1.records ∧
        one.2.map HostCall.withoutView = other.2.map HostCall.withoutView) ∧
    ∀ (snapshot : Snapshot) (moment : Moment) (moments : Nat → Moment) (arrivals : List Event),
      (∀ n, (moments n).now = moment.now) →
      let fresh : Screen := { args := snapshot.args, config := snapshot.config }
      let loaded := loadUsages snapshot.usages (fresh.usageBegin moment.now)
      Interleaves [snapshot.groups] [snapshot.hibernation] [.ok loaded] arrivals →
      CommandLine.outcome (fresh.drain moments arrivals) =
        CommandLine.outcome (snapshot.screen moment) := by
  constructor
  · intro args config now listed settings loads first second order other clock otherClock
    have same := order.after_eq args config other clock otherClock
    refine ⟨?_, ?_, Interleaves.calls_eq rfl order other⟩
    · rw [Screen.handleAll_eq_after, Screen.handleAll_eq_after, same]
    · rw [Screen.handleAll_eq_after, Screen.handleAll_eq_after, same]
  · intro snapshot moment moments arrivals clock fresh loaded order
    have last : Interleaves [snapshot.groups] [snapshot.hibernation] [.ok loaded]
        [.groups snapshot.groups, .hibernation snapshot.hibernation, .usages (.ok loaded)] :=
      ⟨rfl, rfl, rfl⟩
    rw [Snapshot.screen_eq]
    exact order.outcome_eq snapshot.args snapshot.config last clock fun _ => rfl

/-- An app with one group, which it has used and which would be revoked. -/
def usedSnapshot : Snapshot where
  args := Args.ofPackage "app" 0 1
  config := {}
  groups := some (Groups.empty.set .allowed [⟨"camera", .plain, true⟩])
  hibernation := some ⟨true, true, true, ["camera"]⟩
  usages := [⟨"app", [⟨"camera", 1⟩]⟩]

/-- Its usages may be loaded after everything else, or before. -/
theorem arrival_order_irrelevant_usedSnapshot :
    let fresh : Screen := { args := usedSnapshot.args, config := usedSnapshot.config }
    let groups : Event := .groups usedSnapshot.groups
    let hibernation : Event := .hibernation usedSnapshot.hibernation
    let usages : Event := .usages (.ok usedSnapshot.usages)
    let late := fresh.handleAll [(⟨0, 1⟩, groups), (⟨0, 2⟩, hibernation), (⟨0, 3⟩, usages)]
    let early := fresh.handleAll [(⟨0, 4⟩, usages), (⟨0, 5⟩, hibernation), (⟨0, 6⟩, groups)]
    (late.1.model = early.1.model ∧ late.1.records = early.1.records ∧
        late.2.map HostCall.withoutView = early.2.map HostCall.withoutView) ∧
      CommandLine.outcome (fresh.drain (fun _ => ⟨0, 7⟩) [usages, groups, hibernation]) =
        CommandLine.outcome (usedSnapshot.screen ⟨0, 8⟩) := by
  constructor
  · exact arrival_order_irrelevant.1 usedSnapshot.args usedSnapshot.config 0
      [usedSnapshot.groups] [usedSnapshot.hibernation] [.ok usedSnapshot.usages] _ _
      ⟨rfl, rfl, rfl⟩ ⟨rfl, rfl, rfl⟩ (by simp) (by simp)
  · exact arrival_order_irrelevant.2 usedSnapshot ⟨0, 8⟩ (fun _ => ⟨0, 7⟩) _ (fun _ => rfl)
      ⟨rfl, rfl, rfl⟩

end PermissionScreen
