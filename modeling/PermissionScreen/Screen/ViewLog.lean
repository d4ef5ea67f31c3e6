import PermissionScreen.Screen.Model

/-!
The record of what was seen when a screen was first shown: an entry for each group that is allowed
or denied.
-/

namespace PermissionScreen

inductive ViewCategory where
  | allowed
  | allowedForeground
  | denied
  deriving DecidableEq, Repr

structure ViewRecord where
  session : Int64
  view : Int64
  package : String
  group : String
  category : ViewCategory
  deriving DecidableEq, Repr

/-- How a group is recorded that was seen in a section. -/
def viewCategory (category : Category) (subtitle : Subtitle) : ViewCategory :=
  match category, subtitle with
  | .denied, _ => .denied
  | _, .foregroundOnly => .allowedForeground
  | _, _ => .allowed

/-- The record of an entry, if it stands for a group. -/
def Entry.viewRecord? (args : Args) (view : Int64) (category : Category) (entry : Entry) :
    Option ViewRecord :=
  match entry.kind with
  | .group name _ subtitle =>
      some ⟨args.session, view, args.package, name, viewCategory category subtitle⟩
  | _ => none

/-- The records of a model that is shown. -/
def Model.viewRecords (model : Model) (args : Args) (view : Int64) : List ViewRecord :=
  [Category.allowed, Category.denied].flatMap fun category =>
    match model.section? category with
    | some shown => shown.entries.filterMap (Entry.viewRecord? args view category)
    | none => []

end PermissionScreen
