/-!
A value that can be observed. Whoever subscribes is told each value that is set from then on. In
being told it may itself subscribe, unsubscribe or set a value, and then tells of the new value
nest within the telling of the old.
-/

namespace PermissionScreen

/-- Subscriptions are numbered from one. -/
abbrev Subscription := Nat

/-- What an observer does when it is told a value, step by step. The steps that give an answer go on
with it; `σ` is what surrounds the observable. -/
inductive Reaction (σ α : Type) where
  | done
  | subscribe (observer : Subscription → α → Reaction σ α) (next : Subscription → Reaction σ α)
  | unsubscribe (subscription : Subscription) (next : Bool → Reaction σ α)
  | set (value : α) (next : Reaction σ α)
  | read (next : Option α → Reaction σ α)
  | affect (change : σ → σ) (next : Reaction σ α)

/-- An observer and the number of its subscription. -/
structure Observer (σ α : Type) where
  subscription : Subscription
  react : α → Reaction σ α

/-- A value, if one has been set, with its observers in the order in which they subscribed. -/
structure Observable (σ α : Type) where
  value : Option α := none
  observers : List (Observer σ α) := []
  nextSubscription : Subscription := 1

/-- The telling of one observer, with the values that were set in the course of it. -/
inductive Telling (α : Type) where
  | mk (subscription : Subscription) (value : α) (nested : List (List (Telling α)))

namespace Telling

variable {α : Type}

def subscription : Telling α → Subscription
  | mk subscription _ _ => subscription

def value : Telling α → α
  | mk _ value _ => value

def nested : Telling α → List (List (Telling α))
  | mk _ _ nested => nested

end Telling

namespace Observable

variable {σ α : Type}

/-- Whether a value has been set. -/
def isInitialized (observable : Observable σ α) : Bool := observable.value.isSome

/-- Adds an observer, which learns the number of its subscription. -/
def subscribe (observable : Observable σ α) (observer : Subscription → α → Reaction σ α) :
    Subscription × Observable σ α :=
  let subscription := observable.nextSubscription
  (subscription,
    { observable with
      observers := observable.observers ++ [⟨subscription, observer subscription⟩]
      nextSubscription := subscription + 1 })

/-- Whether somebody observes under this number. -/
def hasSubscription (observable : Observable σ α) (subscription : Subscription) : Bool :=
  observable.observers.any (·.subscription = subscription)

/-- Removes the observer of that number, and says whether there was one. -/
def unsubscribe (observable : Observable σ α) (subscription : Subscription) :
    Bool × Observable σ α :=
  (observable.hasSubscription subscription,
    { observable with
      observers := observable.observers.filter (·.subscription ≠ subscription) })

end Observable

/-- An observable and what surrounds it. -/
structure World (σ α : Type) where
  observable : Observable σ α
  ambient : σ

namespace World

variable {σ α : Type}

/-- Runs a reaction, where `setValue` says what setting a value does. For each value that is set in
the course of it the tellings of its observers are kept. -/
def react (setValue : α → World σ α → Option (World σ α × List (Telling α))) :
    Reaction σ α → World σ α → Option (World σ α × List (List (Telling α)))
  | .done, world => some (world, [])
  | .subscribe observer next, world =>
      let (subscription, observable) := world.observable.subscribe observer
      react setValue (next subscription) { world with observable }
  | .unsubscribe subscription next, world =>
      let (found, observable) := world.observable.unsubscribe subscription
      react setValue (next found) { world with observable }
  | .set value next, world => do
      let (world, tellings) ← setValue value world
      let (world, later) ← react setValue next world
      return (world, tellings :: later)
  | .read next, world => react setValue (next world.observable.value) world
  | .affect change next, world =>
      react setValue next { world with ambient := change world.ambient }

/-- Tells observers a value, one after the other. -/
def tell (setValue : α → World σ α → Option (World σ α × List (Telling α))) (value : α) :
    List (Observer σ α) → World σ α → Option (World σ α × List (Telling α))
  | [], world => some (world, [])
  | observer :: rest, world => do
      let (world, nested) ← react setValue (observer.react value) world
      let (world, later) ← tell setValue value rest world
      return (world, ⟨observer.subscription, value, nested⟩ :: later)

/-- Sets a value and tells it to those who observe when it is set. Values set in the course of that
may nest to a depth below `depth`; if they nest deeper, there is no result. -/
def setWithin : (depth : Nat) → α → World σ α → Option (World σ α × List (Telling α))
  | 0, _, _ => none
  | depth + 1, value, world =>
      tell (setWithin depth) value world.observable.observers
        { world with observable := { world.observable with value := some value } }

end World
end PermissionScreen
