/-!
Slots in message templates. A slot is a name in braces; a text is put in for every one of them.
-/

namespace PermissionScreen.Text

/-- Puts `value` in place of `pattern`, from left to right. The first `skip` characters belong to
an occurrence that has been replaced. -/
def replaceFrom (pattern value : List Char) : Nat → List Char → List Char
  | _, [] => []
  | skip + 1, _ :: rest => replaceFrom pattern value skip rest
  | 0, c :: rest =>
      if pattern.isPrefixOf (c :: rest) then
        value ++ replaceFrom pattern value (pattern.length - 1) rest
      else c :: replaceFrom pattern value 0 rest

/-- The slot of that name. -/
def slot (name : String) : String := "\x7b" ++ name ++ "\x7d"

/-- The template with `value` in every slot of that name. The value is not looked through again. -/
def fill (name value template : String) : String :=
  String.ofList (replaceFrom (slot name).toList value.toList 0 template.toList)

end PermissionScreen.Text
