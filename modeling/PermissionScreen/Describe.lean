import PermissionScreen.Observable.Basic
import PermissionScreen.Screen.Basic
import PermissionScreen.Text.Quoted

/-!
Descriptions of a screen and of an observable for whoever looks for an error: the names of their
parts, with their values.
-/

namespace PermissionScreen

/-- A value with named parts. -/
def describeParts (name : String) (parts : List (String × String)) : String :=
  name ++ " \x7b " ++ ", ".intercalate (parts.map fun part => part.1 ++ ": " ++ part.2) ++ " \x7d"

def describeBool (value : Bool) : String := if value then "true" else "false"

def Args.describe (args : Args) : String :=
  describeParts "ScreenArgs" [("package_name", Text.quoted args.package),
    ("user_id", toString args.user.toNat), ("session_id", toString args.session.toInt),
    ("is_system_screen", describeBool args.isSystem),
    ("shows_usage_info", describeBool args.showsUsage)]

def Screen.describe (screen : Screen) : String :=
  describeParts "AppPermissionGroupsScreen" [("args", screen.args.describe),
    ("has_groups", describeBool screen.groups.isSome),
    ("usage_records", toString screen.records.size),
    ("first_load", describeBool screen.firstLoad)]

def describeSubscription (subscription : Subscription) : String :=
  "SubscriptionId(" ++ toString subscription ++ ")"

/-- The value is told as one that can be had, and then as one that is set. -/
def Observable.describe {σ : Type} (observable : Observable σ Int) : String :=
  let value := match observable.value with
    | some value => "Some(" ++ toString value ++ ")"
    | none => "None"
  describeParts "Observable" [("value", "Some(" ++ value ++ ")"),
    ("observers", toString observable.observers.length)]

end PermissionScreen
