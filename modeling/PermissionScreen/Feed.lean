import PermissionScreen.Observable.Basic
import PermissionScreen.Screen.Basic

/-!
How changes come to the screen. The groups and the settings of revoking are observable values; a
forward turns each value that is set into an event. A load of usages ends in an event of its own.
Events wait in one queue until the screen takes them, first in, first out.
-/

namespace PermissionScreen

/-- The events that wait, and whether anybody will take them. Without a taker events are dropped. -/
structure Channel where
  waiting : List Event := []
  isOpen : Bool := true

/-- Sends an event. -/
def Channel.send (channel : Channel) (event : Event) : Channel :=
  if channel.isOpen then { channel with waiting := channel.waiting ++ [event] } else channel

/-- Nobody will take the events that wait, nor any later ones. -/
def Channel.close (_ : Channel) : Channel := ⟨[], false⟩

/-- An observer that sends each value as an event. -/
def forwarder {α : Type} (toEvent : α → Event) : Subscription → α → Reaction Channel α :=
  fun _ value => .affect (·.send (toEvent value)) .done

/-- Sets the value of a source. Its observers send events and set nothing, so that no values
nest. -/
def setSource {α : Type} (source : Observable Channel α) (channel : Channel) (value : α) :
    Observable Channel α × Channel :=
  match World.setWithin 1 value ⟨source, channel⟩ with
  | some (world, _) => (world.observable, world.ambient)
  | none => (source, channel)

/-- The sources of a screen, and the channel to it. -/
structure Feed where
  groups : Observable Channel (Option Groups) := {}
  hibernation : Observable Channel (Option Hibernation) := {}
  channel : Channel := {}

namespace Feed

/-- Has the groups sent to the screen whenever they are set. -/
def forwardGroups (feed : Feed) : Subscription × Feed :=
  let (subscription, groups) := feed.groups.subscribe (forwarder .groups)
  (subscription, { feed with groups })

/-- Has the settings of revoking sent to the screen whenever they are set. -/
def forwardHibernation (feed : Feed) : Subscription × Feed :=
  let (subscription, hibernation) := feed.hibernation.subscribe (forwarder .hibernation)
  (subscription, { feed with hibernation })

/-- Stops a forward of the groups. -/
def stopGroups (feed : Feed) (subscription : Subscription) : Bool × Feed :=
  let (found, groups) := feed.groups.unsubscribe subscription
  (found, { feed with groups })

/-- Stops a forward of the settings of revoking. -/
def stopHibernation (feed : Feed) (subscription : Subscription) : Bool × Feed :=
  let (found, hibernation) := feed.hibernation.unsubscribe subscription
  (found, { feed with hibernation })

/-- Sets the groups, or that there is no app. -/
def setGroups (feed : Feed) (value : Option Groups) : Feed :=
  let (groups, channel) := setSource feed.groups feed.channel value
  { feed with groups, channel }

/-- Sets the settings of revoking. -/
def setHibernation (feed : Feed) (value : Option Hibernation) : Feed :=
  let (hibernation, channel) := setSource feed.hibernation feed.channel value
  { feed with hibernation, channel }

/-- Ends a load of usages. -/
def load (feed : Feed) (usages : Except ScreenError (List AppUsage)) : Feed :=
  { feed with channel := feed.channel.send (.usages usages) }

end Feed

/-- What came of taking the events that wait: how many were handled before an error, and the events
that still wait. -/
structure Drained where
  screen : Screen
  calls : List HostCall
  handled : Nat
  error : Option ScreenError
  waiting : List Event

/-- Handles waiting events in turn, up to one that fails. The one that fails is taken too. Event
number `n` is handled at the moment `moments n`. -/
def Screen.drain (moments : Nat → Moment) (screen : Screen) : List Event → Drained
  | [] => ⟨screen, [], 0, none, []⟩
  | event :: rest =>
      let step := screen.handle (moments 0) event
      match step.result with
      | .error error => ⟨step.screen, step.calls, 0, some error, rest⟩
      | .ok _ =>
          let later := step.screen.drain (fun n => moments (n + 1)) rest
          { later with calls := step.calls ++ later.calls, handled := later.handled + 1 }

end PermissionScreen
