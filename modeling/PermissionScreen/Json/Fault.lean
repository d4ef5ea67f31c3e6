import PermissionScreen.Decimal.Shortest
import PermissionScreen.Json.Tree
import PermissionScreen.Text.Quoted

/-!
Why a value cannot be taken out of a JSON text. Text that is no JSON is reported without a word;
JSON of the wrong shape is reported by what was found and what was looked for.
-/

namespace PermissionScreen.Json

/-- What data a variant of a choice carries. -/
inductive Payload where
  | unit
  | value
  | fields
  deriving DecidableEq, Repr

def Payload.name : Payload → String
  | .unit => "unit variant"
  | .value => "newtype variant"
  | .fields => "struct variant"

inductive Fault where
  /-- The text is not JSON, or a choice is written in no known form. -/
  | malformed
  | wrongType (found : Found) (expected : String)
  | outOfRange (value : Int) (expected : String)
  | wrongLength (length : Nat) (expected : String)
  | missingField (name : String)
  | duplicateField (name : String)
  | unknownVariant (name : String) (known : List String)
  /-- A variant that carries data is given by its name alone. -/
  | bareVariant (expected : Payload)
  deriving DecidableEq, Repr

/-- What was found, in words. -/
def Found.describe : Found → String
  | .null => "null"
  | .bool true => "boolean `true`"
  | .bool false => "boolean `false`"
  | .number (.integer value) => "integer `" ++ toString value ++ "`"
  | .number (.real value) => "floating point `" ++ value.text ++ "`"
  | .text value => "string " ++ Text.quoted value
  | .array => "sequence"
  | .object => "map"

def ticked (name : String) : String := "`" ++ name ++ "`"

/-- The names that would have been right. -/
def alternatives : List String → String
  | [] => "there are no variants"
  | [only] => "expected " ++ ticked only
  | [first, second] => "expected " ++ ticked first ++ " or " ++ ticked second
  | known => "expected one of " ++ ", ".intercalate (known.map ticked)

/-- The text of a fault; there is none for text that is not JSON. -/
def Fault.message? : Fault → Option String
  | .malformed => none
  | .wrongType found expected =>
      some ("invalid type: " ++ found.describe ++ ", expected " ++ expected)
  | .outOfRange value expected =>
      some ("invalid value: integer `" ++ toString value ++ "`, expected " ++ expected)
  | .wrongLength length expected =>
      some ("invalid length " ++ toString length ++ ", expected " ++ expected)
  | .missingField name => some ("missing field " ++ ticked name)
  | .duplicateField name => some ("duplicate field " ++ ticked name)
  | .unknownVariant name known =>
      some ("unknown variant " ++ ticked name ++ ", " ++ alternatives known)
  | .bareVariant expected =>
      some ("invalid type: " ++ Payload.unit.name ++ ", expected " ++ expected.name)

end PermissionScreen.Json
