import PermissionScreen.Json.Fault

/-!
What can go wrong with a screen, its settings and its sources.
-/

namespace PermissionScreen

/-- Why a file's text cannot be had. -/
inductive ReadFault where
  | notFound
  | notText
  deriving DecidableEq, Repr

def ReadFault.text : ReadFault → String
  | .notFound => "No such file or directory (os error 2)"
  | .notText => "stream did not contain valid UTF-8"

inductive ScreenError where
  | appNotFound (package : String)
  | usageLoad (text : String)
  | invalidConfig (text : String)
  | io (text : String)
  | serialization (fault : Json.Fault)
  deriving DecidableEq, Repr

namespace ScreenError

/-- The text of an error. Of text that is no JSON it only says so. -/
def message : ScreenError → String
  | .appNotFound package => "App not found: " ++ package
  | .usageLoad text => "Usage load failed: " ++ text
  | .invalidConfig text => "Invalid configuration: " ++ text
  | .io text => "IO error: " ++ text
  | .serialization fault => "Serialization error: " ++ (fault.message?.getD "malformed text")

/-- Whether the screen goes away on an error. -/
def closesScreen : ScreenError → Bool
  | .appNotFound _ => true
  | _ => false

end ScreenError
end PermissionScreen
