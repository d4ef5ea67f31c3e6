import PermissionScreen.Json.Decode

/-!
Records: structures whose fields are the members of an object, in any order, or the items of an
array, in theirs. Each field is taken out on its own; of all faults the one counts that comes first
in the text, and a field that is missing is missed where the record ends.
-/

namespace PermissionScreen.Json

/-- A value, or a fault and how many parts of the record stand before it. -/
inductive Outcome (α : Type) where
  | value (value : α)
  | fault (position : Nat) (reason : Fault)

namespace Outcome

variable {α β : Type}

def map (f : α → β) : Outcome α → Outcome β
  | .value a => .value (f a)
  | .fault position reason => .fault position reason

/-- Both values, or the earlier fault; of two faults in one place the left one counts. -/
def both : Outcome α → Outcome β → Outcome (α × β)
  | .value a, .value b => .value (a, b)
  | .value _, .fault position reason => .fault position reason
  | .fault position reason, .value _ => .fault position reason
  | .fault left leftReason, .fault right rightReason =>
      if left ≤ right then .fault left leftReason else .fault right rightReason

def ofExcept (position : Nat) : Except Fault α → Outcome α
  | .ok a => .value a
  | .error reason => .fault position reason

def toExcept : Outcome α → Except Fault α
  | .value a => .ok a
  | .fault _ reason => .error reason

def getD (outcome : Outcome α) (default : α) : α :=
  match outcome with
  | .value a => a
  | .fault _ _ => default

end Outcome

/-- A member of an object, with the number of members before it. -/
def findMember (name : String) (members : List (Option String × Tree)) : Option (Nat × Tree) :=
  match members with
  | [] => none
  | (candidate, tree) :: rest =>
      if candidate = some name then some (0, tree)
      else (findMember name rest).map fun found => (found.1 + 1, found.2)

/-- Some fields of a record: their names, and how the value that they make up is taken from the
members of an object or from the items of an array, where other fields come before them. -/
structure Fields (α : Type) where
  names : List String
  ofMembers : List (Option String × Tree) → Outcome α
  ofItems : (expected : String) → (before : Nat) → List Tree → Outcome α

namespace Fields

variable {α β : Type}

/-- A field. In an object and in an array there may be a value that stands for a missing one. -/
def single (name : String) (decode : Decoder α) (absent absentItem : Option α) : Fields α where
  names := [name]
  ofMembers members :=
    match findMember name members, absent with
    | some (position, tree), _ => .ofExcept position (decode tree)
    | none, some value => .value value
    | none, none => .fault members.length (.missingField name)
  ofItems expected before items :=
    match items[before]?, absentItem with
    | some tree, _ => .ofExcept before (decode tree)
    | none, some value => .value value
    | none, none => .fault items.length (.wrongLength before expected)

/-- A field that must be there. -/
def required (name : String) (decode : Decoder α) : Fields α := single name decode none none

/-- A field that has a value of its own when it is missing. -/
def withDefault (name : String) (decode : Decoder α) (default : α) : Fields α :=
  single name decode (some default) (some default)

/-- A field that may be missing from an object, but not from an array. -/
def optional (name : String) (decode : Decoder α) : Fields (Option α) :=
  single name (decodeOption decode) (some none) none

/-- No field. -/
def empty (value : α) : Fields α := ⟨[], fun _ => .value value, fun _ _ _ => .value value⟩

def map (f : α → β) (fields : Fields α) : Fields β where
  names := fields.names
  ofMembers members := (fields.ofMembers members).map f
  ofItems expected before items := (fields.ofItems expected before items).map f

/-- The fields of both, those on the left first. -/
def both (left : Fields α) (right : Fields β) : Fields (α × β) where
  names := left.names ++ right.names
  ofMembers members := (left.ofMembers members).both (right.ofMembers members)
  ofItems expected before items :=
    (left.ofItems expected before items).both
      (right.ofItems expected (before + left.names.length) items)

instance : Functor Fields where
  map := Fields.map

instance : Seq Fields where
  seq left right := (left.both (right ())).map fun pair => pair.1 pair.2

/-- A field for each key. -/
def family {κ : Type} [DecidableEq κ] (keys : List κ) (field : κ → Fields α) (default : κ → α) :
    Fields (κ → α) :=
  keys.foldr (fun key rest => ((field key).both rest).map fun found =>
    fun other => if other = key then found.1 else found.2 other) (empty default)

end Fields

/-- The first fault of an object that lies in no single field: a name without a value, a field
given twice, an unknown member that is not JSON, or a text that ends too soon. -/
def checkMembers (names seen : List String) (closed : Bool) :
    (position : Nat) → List (Option String × Tree) → Outcome Unit
  | position, [] => if closed then .value () else .fault position .malformed
  | position, (none, _) :: _ => .fault position .malformed
  | position, (some name, tree) :: rest =>
      if name ∈ seen then .fault position (.duplicateField name)
      else if name ∈ names then checkMembers names (name :: seen) closed (position + 1) rest
      else if tree.isSound then checkMembers names seen closed (position + 1) rest
      else .fault position .malformed

/-- An array may not have more items than there are fields. -/
def checkItems (count : Nat) (items : List Tree) (closed : Bool) : Outcome Unit :=
  if count < items.length then .fault count .malformed
  else if closed then .value () else .fault items.length .malformed

/-- How the number of fields is put. -/
def elementCount (n : Nat) : String :=
  toString n ++ if n = 1 then " element" else " elements"

/-- A record. Its kind is told when something else is found in its place. -/
def decodeRecord {α : Type} (kind : String) (fields : Fields α) : Decoder α
  | .object members closed =>
      ((checkMembers fields.names [] closed 0 members).both (fields.ofMembers members)).toExcept.map
        (·.2)
  | .array items closed =>
      let expected := kind ++ " with " ++ elementCount fields.names.length
      ((checkItems fields.names.length items closed).both
        (fields.ofItems expected 0 items)).toExcept.map (·.2)
  | tree => .error (mismatch tree kind)

end PermissionScreen.Json
