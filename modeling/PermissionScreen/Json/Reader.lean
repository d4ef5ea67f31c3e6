import PermissionScreen.Json.Token

/-!
From tokens to a tree. The reader keeps the containers that are open and takes one token at a
time. Where a token is out of place, it closes nothing: each open container is cut short behind
what has been read of it, and the rest of the text is ignored.
-/

namespace PermissionScreen.Json

/-- A container that has been opened and not closed, with what stands in it so far, last first. An
object waits for the value of its last name. -/
inductive Open where
  | array (items : List Tree)
  | object (members : List (Option String × Tree)) (name : Option String)

/-- The container with `last` in it, cut short. -/
def Open.cutShort (last : Tree) : Open → Tree
  | .array items => .array (items.reverse ++ [last]) false
  | .object members name => .object (members.reverse ++ [(name, last)]) false

/-- The document whose text goes wrong behind `last`. -/
def abandon (containers : List Open) (last : Tree) : Document :=
  ⟨containers.foldl Open.cutShort last, false⟩

def numberTree : Option Number → Tree
  | some value => .number value
  | none => .valueless

def textTree : Option String → Tree
  | some value => .text value
  | none => .valueless

mutual

/-- Reads on where a value should start. -/
def readValue (containers : List Open) : List Token → Document
  | .null :: rest => afterValue containers .null rest
  | .bool value :: rest => afterValue containers (.bool value) rest
  | .number value :: rest => afterValue containers (numberTree value) rest
  | .text value :: rest => afterValue containers (textTree value) rest
  | .openArray :: .closeArray :: rest => afterValue containers (.array [] true) rest
  | .openArray :: rest => readValue (.array [] :: containers) rest
  | .openObject :: .closeObject :: rest => afterValue containers (.object [] true) rest
  | .openObject :: rest => readMember containers [] rest
  | _ => abandon containers .broken

/-- Reads on where the name of a member should start. -/
def readMember (containers : List Open) (members : List (Option String × Tree)) :
    List Token → Document
  | .text name :: .colon :: rest => readValue (.object members name :: containers) rest
  | .text name :: _ => abandon (.object members name :: containers) .broken
  | _ => abandon containers (.object members.reverse false)

/-- Reads on behind a value. -/
def afterValue (containers : List Open) (value : Tree) : List Token → Document
  | .comma :: rest =>
      match containers with
      | [] => ⟨value, true⟩
      | .array items :: outer => readValue (.array (value :: items) :: outer) rest
      | .object members name :: outer => readMember outer ((name, value) :: members) rest
  | .closeArray :: rest =>
      match containers with
      | [] => ⟨value, true⟩
      | .array items :: outer => afterValue outer (.array (items.reverse ++ [value]) true) rest
      | .object _ _ :: _ => abandon containers value
  | .closeObject :: rest =>
      match containers with
      | [] => ⟨value, true⟩
      | .array _ :: _ => abandon containers value
      | .object members name :: outer =>
          afterValue outer (.object (members.reverse ++ [(name, value)]) true) rest
  | [] =>
      match containers with
      | [] => ⟨value, false⟩
      | _ => abandon containers value
  | _ =>
      match containers with
      | [] => ⟨value, true⟩
      | _ => abandon containers value

end

/-- Reads a JSON text. -/
def Document.ofText (text : String) : Document :=
  readValue [] (tokenize text.toList)

end PermissionScreen.Json
