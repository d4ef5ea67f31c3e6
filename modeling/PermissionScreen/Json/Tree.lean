import PermissionScreen.Decimal.Binary

/-!
What a reader finds in a JSON text. A tree keeps every part of the text in its place up to where
the text goes wrong, so that whoever takes values out of it meets the faults in the order in which
they stand in the text: a wrong value in the front comes before a missing bracket at the end.
-/

namespace PermissionScreen.Json

open PermissionScreen.Decimal (Binary)

/-- A number is exact if it is a whole number of 64 bits, with or without a sign, and is rounded
otherwise. -/
inductive Number where
  | integer (value : Int)
  | real (value : Binary)
  deriving DecidableEq, Repr

/-- What stands where something else was looked for. An array or object is known by its bracket. -/
inductive Found where
  | null
  | bool (value : Bool)
  | number (value : Number)
  | text (value : String)
  | array
  | object
  deriving DecidableEq, Repr

/-- A JSON value. -/
inductive Tree where
  | null
  | bool (value : Bool)
  | number (value : Number)
  | text (value : String)
  /-- A number out of range, or a string that escapes half of a surrogate pair. It has the form of
  a value, so that it can be passed over, but no value. -/
  | valueless
  | array (items : List Tree) (closed : Bool)
  /-- The name of a member is missing if it is valueless. -/
  | object (members : List (Option String × Tree)) (closed : Bool)
  /-- The place where the text goes wrong. -/
  | broken

/-- What a value is found to be, if it can be named. -/
def Tree.found? : Tree → Option Found
  | .null => some .null
  | .bool value => some (.bool value)
  | .number value => some (.number value)
  | .text value => some (.text value)
  | .array _ _ => some .array
  | .object _ _ => some .object
  | .valueless => none
  | .broken => none

mutual

/-- A value is sound if its text does not go wrong anywhere. -/
def Tree.isSound : Tree → Bool
  | .broken => false
  | .array items closed => itemsSound items && closed
  | .object members closed => membersSound members && closed
  | _ => true

def itemsSound : List Tree → Bool
  | [] => true
  | item :: rest => item.isSound && itemsSound rest

def membersSound : List (Option String × Tree) → Bool
  | [] => true
  | (_, value) :: rest => value.isSound && membersSound rest

end

theorem membersSound_iff {members : List (Option String × Tree)} :
    membersSound members = true ↔ ∀ member ∈ members, member.2.isSound = true := by
  induction members with
  | nil => simp [membersSound]
  | cons member rest ih => simp [membersSound, ih]

/-- A JSON text: its value, and whether anything but blanks stands behind it. -/
structure Document where
  value : Tree
  trailing : Bool

/-- An array with all its items. -/
def Tree.list (items : List Tree) : Tree := .array items true

/-- An object with all its members. -/
def Tree.record (members : List (String × Tree)) : Tree :=
  .object (members.map fun member => (some member.1, member.2)) true

/-- A whole number. -/
def Tree.int (value : Int) : Tree := .number (.integer value)

end PermissionScreen.Json
