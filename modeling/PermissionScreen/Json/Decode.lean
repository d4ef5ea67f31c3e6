import PermissionScreen.Json.Fault

/-!
Taking values out of trees. A decoder goes through its tree in the order of the text, so that the
fault it gives is the first one.
-/

namespace PermissionScreen.Json

/-- How a value is taken out of a tree. -/
abbrev Decoder (α : Type) := Tree → Except Fault α

/-- The fault of a value where another kind of value was looked for. -/
def mismatch (tree : Tree) (expected : String) : Fault :=
  match tree.found? with
  | some found => .wrongType found expected
  | none => .malformed

def decodeText : Decoder String
  | .text value => .ok value
  | tree => .error (mismatch tree "a string")

def decodeBool : Decoder Bool
  | .bool value => .ok value
  | tree => .error (mismatch tree "a boolean")

def decodeUnit : Decoder Unit
  | .null => .ok ()
  | tree => .error (mismatch tree "unit")

/-- A whole number between two bounds. -/
def decodeWhole (least greatest : Int) (expected : String) : Decoder Int
  | .number (.integer value) =>
      if least ≤ value ∧ value ≤ greatest then .ok value
      else .error (.outOfRange value expected)
  | tree => .error (mismatch tree expected)

def decodeInt32 : Decoder Int32 := fun tree =>
  (decodeWhole Int32.minValue.toInt Int32.maxValue.toInt "i32" tree).map Int32.ofInt

def decodeUInt32 : Decoder UInt32 := fun tree =>
  (decodeWhole 0 (UInt32.size - 1) "u32" tree).map fun value => UInt32.ofNat value.toNat

def decodeInt64 : Decoder Int64 := fun tree =>
  (decodeWhole Int64.minValue.toInt Int64.maxValue.toInt "i64" tree).map Int64.ofInt

/-- A count; it has at most 64 bits. -/
def decodeCount : Decoder Nat := fun tree =>
  (decodeWhole 0 (UInt64.size - 1) "usize" tree).map Int.toNat

/-- Null stands for nothing. -/
def decodeOption {α : Type} (decode : Decoder α) : Decoder (Option α)
  | .null => .ok none
  | tree => (decode tree).map some

/-- The items of an array. -/
def decodeList {α : Type} (decode : Decoder α) : Decoder (List α)
  | .array items closed => do
      let values ← items.mapM decode
      if closed then .ok values else .error .malformed
  | tree => .error (mismatch tree "a sequence")

/-- The members of an object, in order. -/
def decodeMap {κ α : Type} (decodeName : String → Except Fault κ) (decode : Decoder α) :
    Decoder (List (κ × α))
  | .object members closed => do
      let entries ← members.mapM fun
        | (none, _) => .error .malformed
        | (some name, tree) => do
            let name ← decodeName name
            return (name, ← decode tree)
      if closed then .ok entries else .error .malformed
  | tree => .error (mismatch tree "a map")

/-- One of the forms that a choice can take: its name and what it carries. -/
structure Variant (α : Type) where
  name : String
  payload : Payload
  decode : Decoder α

/-- A variant that is its name alone. Null may stand for the data that it does not have. -/
def Variant.unit {α : Type} (name : String) (value : α) : Variant α :=
  ⟨name, .unit, fun tree => (decodeUnit tree).map fun _ => value⟩

/-- The variant of that name. -/
def findVariant {α : Type} (variants : List (Variant α)) (name : String) :
    Except Fault (Variant α) :=
  match variants.find? (·.name = name) with
  | some variant => .ok variant
  | none => .error (.unknownVariant name (variants.map (·.name)))

/-- A choice by its bare name. -/
def decodeName {α : Type} (variants : List (Variant α)) (name : String) : Except Fault α := do
  let variant ← findVariant variants name
  match variant.payload with
  | .unit => variant.decode .null
  | payload => .error (.bareVariant payload)

/-- A choice is a name, or an object with one member whose value is what the variant carries. -/
def decodeChoice {α : Type} (variants : List (Variant α)) : Decoder α
  | .text name => decodeName variants name
  | .object ((some name, tree) :: rest) closed => do
      let variant ← findVariant variants name
      let value ← variant.decode tree
      if rest.isEmpty && closed then .ok value else .error .malformed
  | _ => .error .malformed

/-- A value is decoded from a text if nothing but blanks stands behind it. -/
def decodeDocument {α : Type} (decode : Decoder α) (document : Document) : Except Fault α := do
  let value ← decode document.value
  if document.trailing then .error .malformed else .ok value

end PermissionScreen.Json
