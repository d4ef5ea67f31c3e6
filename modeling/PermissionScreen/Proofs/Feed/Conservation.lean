import Mathlib.Data.List.Basic
import PermissionScreen.Proofs.Screen.Draining

/-!
What becomes of events between the sources and the screen.

Each source is forwarded into the channel once, and loads of usages end there too. Now and then the
screen takes the events that wait, all of them or up to one that fails. Whatever happens in which
order, the events that have been handled and those that still wait are together the events that have
been sent, one for each value that was set and each load that ended, in the order in which they were
sent (`conserves_events`).
-/

namespace PermissionScreen

/-! ### Sources that are forwarded -/

/-- The source has one observer, which sends its values as events. -/
def Observable.ForwardsOnce {α : Type} (toEvent : α → Event) (source : Observable Channel α) :
    Prop :=
  ∃ subscription, source.observers = [⟨subscription, forwarder toEvent subscription⟩]

/-- To set such a source is to send one event. -/
theorem setSource_of_forwardsOnce {α : Type} {toEvent : α → Event}
    {source : Observable Channel α} (forwards : source.ForwardsOnce toEvent) (channel : Channel)
    (value : α) :
    setSource source channel value =
      ({ source with value := some value }, channel.send (toEvent value)) := by
  obtain ⟨subscription, alone⟩ := forwards
  obtain ⟨before, observers, number⟩ := source
  obtain rfl : observers = [⟨subscription, forwarder toEvent subscription⟩] := alone
  rfl

namespace Feed

/-- Both sources are forwarded once, and somebody takes the events. -/
structure Linked (feed : Feed) : Prop where
  groups : feed.groups.ForwardsOnce .groups
  hibernation : feed.hibernation.ForwardsOnce .hibernation
  isOpen : feed.channel.isOpen = true

/-- A feed goes on with one more event, behind those that wait. -/
structure Sends (event : Event) (feed next : Feed) : Prop where
  linked : next.Linked
  waiting : next.channel.waiting = feed.channel.waiting ++ [event]

variable {feed : Feed}

theorem Linked.sends {groups : Observable Channel (Option Groups)}
    {hibernation : Observable Channel (Option Hibernation)}
    (linked : Linked ⟨groups, hibernation, feed.channel⟩) (event : Event) :
    Sends event feed ⟨groups, hibernation, feed.channel.send event⟩ := by
  have isSent : feed.channel.send event =
      { feed.channel with waiting := feed.channel.waiting ++ [event] } := if_pos linked.isOpen
  rw [isSent]
  exact ⟨⟨linked.groups, linked.hibernation, linked.isOpen⟩, rfl⟩

theorem Linked.sends_setGroups (linked : feed.Linked) (value : Option Groups) :
    Sends (.groups value) feed (feed.setGroups value) := by
  rw [setGroups, setSource_of_forwardsOnce linked.groups]
  have set : Linked ⟨{ feed.groups with value := some value }, feed.hibernation, feed.channel⟩ :=
    ⟨linked.groups, linked.hibernation, linked.isOpen⟩
  exact set.sends (.groups value)

theorem Linked.sends_setHibernation (linked : feed.Linked) (value : Option Hibernation) :
    Sends (.hibernation value) feed (feed.setHibernation value) := by
  rw [setHibernation, setSource_of_forwardsOnce linked.hibernation]
  have set : Linked ⟨feed.groups, { feed.hibernation with value := some value }, feed.channel⟩ :=
    ⟨linked.groups, linked.hibernation, linked.isOpen⟩
  exact set.sends (.hibernation value)

theorem Linked.sends_load (linked : feed.Linked)
    (usages : Except ScreenError (List AppUsage)) :
    Sends (.usages usages) feed (feed.load usages) :=
  Linked.sends linked (.usages usages)

/-- The feed with other events that wait. -/
def withWaiting (feed : Feed) (waiting : List Event) : Feed :=
  { feed with channel := { feed.channel with waiting } }

end Feed

/-! ### What happens while a screen is shown -/

/-- A source is set, a load of usages ends, or the screen takes the events that wait. -/
inductive Occurrence where
  | setGroups (value : Option Groups)
  | setHibernation (value : Option Hibernation)
  | load (usages : Except ScreenError (List AppUsage))
  | drain (moments : Nat → Moment)

/-- The event that is sent, if one is. -/
def Occurrence.sent? : Occurrence → Option Event
  | .setGroups value => some (.groups value)
  | .setHibernation value => some (.hibernation value)
  | .load usages => some (.usages usages)
  | .drain _ => none

/-- A screen with its feed, the events that it has handled so far, and what it has asked of its
host. -/
structure Session where
  feed : Feed
  screen : Screen
  handled : History := []
  calls : List HostCall := []

namespace Session

/-- The events that have been sent and not been handled. -/
def waiting (session : Session) : List Event := session.feed.channel.waiting

/-- A fresh screen, of which the sources may have had values before they were forwarded to it. -/
def fresh (args : Args) (config : Config) (groups : Option (Option Groups))
    (hibernation : Option (Option Hibernation)) : Session :=
  let sources : Feed := { groups.value := groups, hibernation.value := hibernation }
  { feed := sources.forwardGroups.2.forwardHibernation.2, screen := { args, config } }

/-- What becomes of a session when something happens. -/
def next (session : Session) : Occurrence → Session
  | .setGroups value => { session with feed := session.feed.setGroups value }
  | .setHibernation value => { session with feed := session.feed.setHibernation value }
  | .load usages => { session with feed := session.feed.load usages }
  | .drain moments =>
      let drained := session.screen.drain moments session.waiting
      { feed := session.feed.withWaiting drained.waiting
        screen := drained.screen
        handled := session.handled ++ session.screen.handledBy moments session.waiting
        calls := session.calls ++ drained.calls }

/-- What becomes of it in the course of several occurrences. -/
def run (session : Session) (occurrences : List Occurrence) : Session :=
  occurrences.foldl next session

/-- The events that were sent have been handled or wait, and what has been handled has had its
effect. -/
structure Keeps (fresh : Screen) (sent : List Event) (session : Session) : Prop where
  linked : session.feed.Linked
  inOrder : session.handled.map Prod.snd ++ session.waiting = sent
  effect : fresh.handleAll session.handled = (session.screen, session.calls)

variable {fresh : Screen} {sent : List Event} {session : Session}

theorem Keeps.send (keeps : Keeps fresh sent session) {feed : Feed} {event : Event}
    (sends : session.feed.Sends event feed) :
    Keeps fresh (sent ++ [event]) { session with feed } where
  linked := sends.linked
  inOrder := by
    show session.handled.map Prod.snd ++ feed.channel.waiting = sent ++ [event]
    rw [sends.waiting, ← List.append_assoc]
    exact congrArg (· ++ [event]) keeps.inOrder
  effect := keeps.effect

/-- What is handled by draining does not wait any more. -/
theorem Keeps.drain (keeps : Keeps fresh sent session) (moments : Nat → Moment) :
    Keeps fresh sent (session.next (.drain moments)) where
  linked := ⟨keeps.linked.groups, keeps.linked.hibernation, keeps.linked.isOpen⟩
  inOrder := by
    have drains := session.screen.drainsInOrder moments session.waiting
    show (session.handled ++ session.screen.handledBy moments session.waiting).map Prod.snd ++
      (session.screen.drain moments session.waiting).waiting = sent
    rw [List.map_append, List.append_assoc, drains.inOrder, keeps.inOrder]
  effect := by
    have drains := session.screen.drainsInOrder moments session.waiting
    show fresh.handleAll (session.handled ++ session.screen.handledBy moments session.waiting) = _
    rw [Screen.handleAll_append, keeps.effect]
    simp only [drains.effect]
    rfl

/-- Whatever happens, no event is lost. -/
theorem Keeps.next (keeps : Keeps fresh sent session) (occurrence : Occurrence) :
    Keeps fresh (sent ++ occurrence.sent?.toList) (session.next occurrence) := by
  cases occurrence with
  | setGroups value => exact keeps.send (keeps.linked.sends_setGroups value)
  | setHibernation value => exact keeps.send (keeps.linked.sends_setHibernation value)
  | load usages => exact keeps.send (keeps.linked.sends_load usages)
  | drain moments => exact (List.append_nil sent).symm ▸ keeps.drain moments

/-- Over a run, as many events are sent as sources are set and loads end, and none is lost. -/
theorem Keeps.run (keeps : Keeps fresh sent session) (occurrences : List Occurrence) :
    Keeps fresh (sent ++ occurrences.filterMap Occurrence.sent?) (session.run occurrences) := by
  induction occurrences generalizing sent session with
  | nil => rwa [List.filterMap_nil, List.append_nil]
  | cons occurrence rest ih =>
    have later := ih (keeps.next occurrence)
    rw [List.append_assoc, List.filterMap_eq_flatMap_toList] at later
    rw [List.filterMap_eq_flatMap_toList, List.flatMap_cons]
    exact later

theorem keeps_fresh (args : Args) (config : Config) (groups : Option (Option Groups))
    (hibernation : Option (Option Hibernation)) :
    Keeps { args, config } [] (Session.fresh args config groups hibernation) :=
  ⟨⟨⟨1, rfl⟩, ⟨1, rfl⟩, rfl⟩, rfl, rfl⟩

/-- Nothing is lost, repeated or put out of order: what a session has come to when some events have
been sent. -/
structure Conserves (args : Args) (config : Config) (sent : List Event) (session : Session) :
    Prop where
  /-- The events that have been sent have been handled, or they wait. -/
  inOrder : session.handled.map Prod.snd ++ session.waiting = sent
  /-- What the screen is like, and what it has asked of its host, has come of handling them. -/
  effect : ({ args, config } : Screen).handleAll session.handled = (session.screen, session.calls)
  /-- The screen takes the events without an error exactly if none of them says that there is no
  app. -/
  fails : ∀ moments, (session.screen.drain moments session.waiting).error = none ↔
    .groups none ∉ session.waiting
  /-- If it takes them without an error, it has handled as many as it says, and none is left. -/
  drained : ∀ moments, (session.screen.drain moments session.waiting).error = none →
    let taken := session.screen.drain moments session.waiting
    let next := session.next (.drain moments)
    next.handled.length = session.handled.length + taken.handled ∧ next.waiting = [] ∧
      next.handled.map Prod.snd = sent
  /-- If there is an error, it has handled them up to the first event that says that there is no
  app, and those behind it are left. -/
  stopped : ∀ moments error,
    (session.screen.drain moments session.waiting).error = some error →
    let next := session.next (.drain moments)
    error = .appNotFound args.package ∧
      ∃ before, .groups none ∉ before ∧
        session.waiting = before ++ .groups none :: next.waiting ∧
          next.handled.map Prod.snd =
            session.handled.map Prod.snd ++ (before ++ [.groups none])

/-- **No event is lost.** Whatever happens in which order, from the time at which the sources are
forwarded to a fresh screen, each event that is sent is handled once, in its turn, or waits. -/
theorem conserves_events (args : Args) (config : Config) (groups : Option (Option Groups))
    (hibernation : Option (Option Hibernation)) (occurrences : List Occurrence) :
    Conserves args config (occurrences.filterMap Occurrence.sent?)
      ((Session.fresh args config groups hibernation).run occurrences) := by
  have keeps := (keeps_fresh args config groups hibernation).run occurrences
  rw [List.nil_append] at keeps
  generalize (Session.fresh args config groups hibernation).run occurrences = session at keeps ⊢
  refine ⟨keeps.inOrder, keeps.effect, ?_, ?_, ?_⟩
  · intro moments
    exact session.screen.error_drain_eq_none_iff moments session.waiting
  · intro moments whole
    have drains := session.screen.drainsInOrder moments session.waiting
    obtain ⟨length, none⟩ := drains.whole whole
    have left : (session.next (.drain moments)).waiting = [] := none
    have all := (keeps.drain moments).inOrder
    rw [left, List.append_nil] at all
    refine ⟨?_, left, all⟩
    rw [← length]
    exact List.length_append
  · intro moments error failed
    have drains := session.screen.drainsInOrder moments session.waiting
    obtain ⟨noApp, before, absent, upTo⟩ := drains.upToFailure failed
    have inOrder := drains.inOrder
    rw [upTo, List.append_assoc, List.singleton_append] at inOrder
    have own : session.screen.args = args :=
      (congrArg (·.1.args) keeps.effect).symm.trans (Screen.args_handleAll _ _)
    refine ⟨own ▸ noApp, before, absent, inOrder.symm, ?_⟩
    show (session.handled ++ session.screen.handledBy moments session.waiting).map Prod.snd = _
    rw [List.map_append, upTo]

/-- Usages that come in behind the news that there is no app are not lost when draining stops. -/
example :
    ((Session.fresh (Args.ofPackage "app" 0 1) {} none none).run
      [.setGroups none, .load (.ok []), .drain fun _ => ⟨0, 1⟩]).waiting = [.usages (.ok [])] :=
  rfl

end Session
end PermissionScreen
