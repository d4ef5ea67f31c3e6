import PermissionScreen.Group.Basic

/-!
What the screen shows: sections of entries, and a switch for revoking the permissions of an unused
app. An entry holds what is to happen when it is activated.
-/

namespace PermissionScreen

/-- The app whose groups are shown, and on which of its two screens: that of the platform's groups
or that of the others. -/
structure Args where
  package : String
  user : UInt32
  session : Int64
  isSystem : Bool
  /-- Whether entries lead to the usage of their group. -/
  showsUsage : Bool := false
  deriving DecidableEq, Repr

namespace Args

/-- The screen of the platform's groups. -/
def ofPackage (package : String) (user : UInt32) (session : Int64) : Args :=
  ⟨package, user, session, true, false⟩

def withUsage (args : Args) (showsUsage : Bool) : Args := { args with showsUsage }

/-- The screen of the other groups of the same app. -/
def additional (args : Args) : Args := { args with isSystem := false }

end Args

inductive Icon where
  | group (name : String)
  | additional
  | info
  deriving DecidableEq, Repr

/-- What activating an entry does. -/
inductive Action where
  | none
  | openGroup (group : String) (category : Category)
  | showAdditional (args : Args)
  | viewUsage (group : String)
  deriving DecidableEq, Repr

/-- What an entry stands for: a group, a number of groups on the other screen, or nothing. -/
inductive Kind where
  | group (name : String) (source : Category) (subtitle : Subtitle)
  | additional (count : Nat)
  | placeholder
  deriving DecidableEq, Repr

structure Entry where
  key : String
  title : String
  summary : Option String := none
  icon : Option Icon := none
  action : Action
  secondaryIcon : Option Icon := none
  secondaryAction : Option Action := none
  kind : Kind
  deriving DecidableEq, Repr

namespace Entry

def isAdditional (entry : Entry) : Bool :=
  match entry.kind with
  | .additional _ => true
  | _ => false

def isPlaceholder (entry : Entry) : Bool :=
  match entry.kind with
  | .placeholder => true
  | _ => false

/-- Whether activating the entry does something. -/
def isSelectable (entry : Entry) : Bool := entry.action ≠ .none

/-- The group that the entry stands for. -/
def group? (entry : Entry) : Option String :=
  match entry.kind with
  | .group name _ _ => some name
  | _ => none

end Entry

structure Section where
  category : Category
  entries : List Entry
  deriving DecidableEq, Repr

/-- The first entry with a key. -/
def Section.find? (shown : Section) (key : String) : Option Entry :=
  shown.entries.find? (·.key = key)

/-- The switch for revoking permissions. -/
structure AutoRevoke where
  label : String
  checked : Bool
  enabled : Bool
  summary : String
  deriving DecidableEq, Repr

structure Model where
  sections : List Section
  autoRevoke : Option AutoRevoke
  deriving DecidableEq, Repr

/-- The first section of a category. -/
def Model.section? (model : Model) (category : Category) : Option Section :=
  model.sections.find? (·.category = category)

end PermissionScreen
