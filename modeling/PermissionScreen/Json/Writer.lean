import PermissionScreen.Json.Token

/-!
From a tree to tokens and to text. Nothing is put between the tokens. A tree that goes wrong
somewhere is written without the brackets that it lacks.
-/

namespace PermissionScreen.Json

/-- Puts commas between the tokens of the parts of a container. -/
def separate : List (List Token) → List Token
  | [] => []
  | [part] => part
  | part :: rest => part ++ .comma :: separate rest

mutual

/-- The tokens of a value. -/
def Tree.tokens : Tree → List Token
  | .null => [.null]
  | .bool value => [.bool value]
  | .number value => [.number (some value)]
  | .text value => [.text (some value)]
  | .array items closed =>
      .openArray :: separate (itemTokens items) ++ if closed then [.closeArray] else []
  | .object members closed =>
      .openObject :: separate (memberTokens members) ++ if closed then [.closeObject] else []
  | .valueless | .broken => [.stray]

def itemTokens : List Tree → List (List Token)
  | [] => []
  | item :: rest => item.tokens :: itemTokens rest

def memberTokens : List (Option String × Tree) → List (List Token)
  | [] => []
  | (name, value) :: rest => (.text name :: .colon :: value.tokens) :: memberTokens rest

end

/-- The text of a value. -/
def Tree.write (tree : Tree) : String :=
  String.ofList (tree.tokens.flatMap Token.spell)

end PermissionScreen.Json
