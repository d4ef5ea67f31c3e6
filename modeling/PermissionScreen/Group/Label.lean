import PermissionScreen.Group.Basic
import PermissionScreen.Unicode.LowerText

/-!
The title of a group. A platform group is called by the last part of its name, in lower case but
for its first letter, with blanks for underscores; any other group by its full name.
-/

namespace PermissionScreen

/-- What the names of platform groups start with. -/
def platformStem : String := "android.permission-group."

/-- The words of the last part of a platform group's name. -/
def labelWords (part : List Char) : List Char :=
  (Unicode.lowerText part).map fun c => if c = '_' then ' ' else c

/-- Puts the first character in upper case. -/
def capitalize : List Char → List Char
  | [] => []
  | first :: rest => Unicode.upperChar first ++ rest

/-- The title of the group of that name. -/
def groupLabel (group : String) : String :=
  match platformStem.toList.isPrefixOf? group.toList with
  | some part => String.ofList (capitalize (labelWords part))
  | none => group

/-- The title of a group. -/
def Descriptor.label (descriptor : Descriptor) : String := groupLabel descriptor.group

end PermissionScreen
