import PermissionScreen.Observable.Basic

/-!
Observers of a number with simple habits. Each first notes what it is told. The numbers that they
set in turn go up to a limit, so that they come to an end.
-/

namespace PermissionScreen

/-- What an observer does besides noting the number. -/
inductive Habit where
  | plain
  /-- Unsubscribes itself. -/
  | once
  /-- Subscribes another observer, which only notes. -/
  | spawner
  /-- Sets the next number as long as the one that it is told is below the limit. -/
  | bump (limit : Int)
  deriving DecidableEq, Repr

/-- What has been told to whom, by name. -/
abbrev Notes := List (String × Int)

/-- Notes a number. -/
def note (name : String) (value : Int) (next : Reaction Notes Int) : Reaction Notes Int :=
  .affect (· ++ [(name, value)]) next

/-- The observer of that name and habit. -/
def Habit.observer (name : String) : Habit → Subscription → Int → Reaction Notes Int
  | .plain, _, value => note name value .done
  | .once, subscription, value => note name value (.unsubscribe subscription fun _ => .done)
  | .spawner, _, value =>
      note name value
        (.subscribe (fun _ value => note (name ++ "+") value .done) fun _ => .done)
  | .bump limit, _, value =>
      note name value (if value < limit then .set (value + 1) .done else .done)

/-- The limit up to which an observer sets numbers, if it does. -/
def Habit.limit? : Habit → Option Int
  | .bump limit => some limit
  | _ => none

/-- A depth to which numbers do not nest that start at `value`, where the limits are those of all
observers. -/
def nestingDepth (limits : List Int) (value : Int) : Nat :=
  (limits.foldl max value - value).toNat + 1

end PermissionScreen
