import PermissionScreen.Format.Group
import PermissionScreen.Screen.Model

/-!
What the screen shows, in JSON. Of an entry the parts that it does not have are left out; a model
without a switch has null in its place.
-/

namespace PermissionScreen

open Json

namespace Args

def fields : Fields Args :=
  Args.mk <$> .required "package_name" decodeText
    <*> .required "user_id" decodeUInt32
    <*> .required "session_id" decodeInt64
    <*> .required "is_system_screen" decodeBool
    <*> .withDefault "shows_usage_info" decodeBool false

def decode : Decoder Args := decodeRecord "struct ScreenArgs" fields

def encode (args : Args) : Tree :=
  .record [("package_name", .text args.package), ("user_id", .int args.user.toNat),
    ("session_id", .int args.session.toInt), ("is_system_screen", .bool args.isSystem),
    ("shows_usage_info", .bool args.showsUsage)]

end Args

namespace Icon

def variants : List (Variant Icon) := [
  ⟨"Group", .value, fun tree => (decodeText tree).map .group⟩,
  .unit "AdditionalPermissions" .additional,
  .unit "Info" .info]

def decode : Decoder Icon := decodeChoice variants

def encode : Icon → Tree
  | .group name => .record [("Group", .text name)]
  | .additional => .text "AdditionalPermissions"
  | .info => .text "Info"

end Icon

namespace Action

def openGroupFields : Fields Action :=
  Action.openGroup <$> .required "group_name" decodeText
    <*> .required "category" Category.decode

def viewUsageFields : Fields Action :=
  Action.viewUsage <$> .required "group_name" decodeText

def variants : List (Variant Action) := [
  .unit "None" .none,
  ⟨"OpenGroup", .fields, decodeRecord "struct variant EntryAction::OpenGroup" openGroupFields⟩,
  ⟨"ShowExtraPermissions", .value, fun tree => (Args.decode tree).map .showAdditional⟩,
  ⟨"ViewPermissionUsage", .fields,
    decodeRecord "struct variant EntryAction::ViewPermissionUsage" viewUsageFields⟩]

def decode : Decoder Action := decodeChoice variants

def encode : Action → Tree
  | .none => .text "None"
  | .openGroup group category =>
      .record [("OpenGroup",
        .record [("group_name", .text group), ("category", category.encode)])]
  | .showAdditional args => .record [("ShowExtraPermissions", args.encode)]
  | .viewUsage group => .record [("ViewPermissionUsage", .record [("group_name", .text group)])]

end Action

namespace Kind

def groupFields : Fields Kind :=
  Kind.group <$> .required "group_name" decodeText
    <*> .required "source" Category.decode
    <*> .required "subtitle" Subtitle.decode

def additionalFields : Fields Kind :=
  Kind.additional <$> .required "count" decodeCount

def variants : List (Variant Kind) := [
  ⟨"Group", .fields, decodeRecord "struct variant EntryKind::Group" groupFields⟩,
  ⟨"AdditionalPermissions", .fields,
    decodeRecord "struct variant EntryKind::AdditionalPermissions" additionalFields⟩,
  .unit "Placeholder" .placeholder]

def decode : Decoder Kind := decodeChoice variants

def encode : Kind → Tree
  | .group name source subtitle =>
      .record [("Group", .record [("group_name", .text name), ("source", source.encode),
        ("subtitle", subtitle.encode)])]
  | .additional count => .record [("AdditionalPermissions", .record [("count", .int count)])]
  | .placeholder => .text "Placeholder"

end Kind

/-- A member for a value that may not be there. -/
def optionalMember {α : Type} (name : String) (encode : α → Tree) :
    Option α → List (String × Tree)
  | some value => [(name, encode value)]
  | none => []

namespace Entry

def fields : Fields Entry :=
  Entry.mk <$> .required "key" decodeText
    <*> .required "title" decodeText
    <*> .optional "summary" decodeText
    <*> .optional "icon" Icon.decode
    <*> .required "action" Action.decode
    <*> .optional "secondary_icon" Icon.decode
    <*> .optional "secondary_action" Action.decode
    <*> .required "kind" Kind.decode

def decode : Decoder Entry := decodeRecord "struct Entry" fields

def encode (entry : Entry) : Tree :=
  .record ([("key", .text entry.key), ("title", .text entry.title)] ++
    optionalMember "summary" .text entry.summary ++
    optionalMember "icon" Icon.encode entry.icon ++
    [("action", entry.action.encode)] ++
    optionalMember "secondary_icon" Icon.encode entry.secondaryIcon ++
    optionalMember "secondary_action" Action.encode entry.secondaryAction ++
    [("kind", entry.kind.encode)])

end Entry

namespace Section

def fields : Fields Section :=
  Section.mk <$> .required "category" Category.decode
    <*> .required "entries" (decodeList Entry.decode)

def decode : Decoder Section := decodeRecord "struct Section" fields

def encode (shown : Section) : Tree :=
  .record [("category", shown.category.encode),
    ("entries", .list (shown.entries.map Entry.encode))]

end Section

namespace AutoRevoke

def fields : Fields AutoRevoke :=
  AutoRevoke.mk <$> .required "label" decodeText
    <*> .required "checked" decodeBool
    <*> .required "enabled" decodeBool
    <*> .required "summary" decodeText

def decode : Decoder AutoRevoke := decodeRecord "struct AutoRevokeSection" fields

def encode (autoRevoke : AutoRevoke) : Tree :=
  .record [("label", .text autoRevoke.label), ("checked", .bool autoRevoke.checked),
    ("enabled", .bool autoRevoke.enabled), ("summary", .text autoRevoke.summary)]

end AutoRevoke

/-- Null stands for nothing. -/
def encodeOption {α : Type} (encode : α → Tree) : Option α → Tree
  | some value => encode value
  | none => .null

namespace Model

def fields : Fields Model :=
  Model.mk <$> .required "sections" (decodeList Section.decode)
    <*> .optional "auto_revoke" AutoRevoke.decode

def decode : Decoder Model := decodeRecord "struct ScreenModel" fields

def encode (model : Model) : Tree :=
  .record [("sections", .list (model.sections.map Section.encode)),
    ("auto_revoke", encodeOption AutoRevoke.encode model.autoRevoke)]

end Model
end PermissionScreen
