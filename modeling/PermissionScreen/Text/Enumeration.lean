/-!
A list of titles as one phrase, such as "Camera, Location, and Phone".
-/

namespace PermissionScreen.Text

/-- What stands between the items of a phrase: between two that are all, between two of several,
and in front of the last of several. -/
structure Separators where
  pair : String
  middle : String
  final : String
  deriving DecidableEq, Repr

namespace Separators

/-- The phrase from the second item of several on. -/
def following (separators : Separators) : List String → String
  | [] => ""
  | [last] => separators.final ++ last
  | next :: rest => separators.middle ++ next ++ separators.following rest

/-- The phrase that names all the items. -/
def enumerate (separators : Separators) : List String → String
  | [] => ""
  | [only] => only
  | [first, second] => first ++ separators.pair ++ second
  | first :: rest => first ++ separators.following rest

end Separators
end PermissionScreen.Text
