import PermissionScreen.Json.Record
import PermissionScreen.Screen.Basic

/-!
The settings of revoking, the menu and the records of what was seen, in JSON.
-/

namespace PermissionScreen

open Json

namespace Hibernation

def fields : Fields Hibernation :=
  Hibernation.mk <$> .required "enabled_global" decodeBool
    <*> .required "enabled_for_app" decodeBool
    <*> .required "allow_user_toggle" decodeBool
    <*> .withDefault "revocable_group_names" (decodeList decodeText) []

def decode : Decoder Hibernation := decodeRecord "struct HibernationSettingState" fields

def encode (hibernation : Hibernation) : Tree :=
  .record [("enabled_global", .bool hibernation.enabledGlobal),
    ("enabled_for_app", .bool hibernation.enabledForApp),
    ("allow_user_toggle", .bool hibernation.allowUserToggle),
    ("revocable_group_names", .list (hibernation.revocableGroups.map .text))]

end Hibernation

namespace MenuItem

def all : List MenuItem := [.allPermissions, .help]

def name : MenuItem → String
  | .allPermissions => "AllPermissions"
  | .help => "Help"

def decode : Decoder MenuItem := decodeChoice (all.map fun item => .unit item.name item)

def encode (item : MenuItem) : Tree := .text item.name

end MenuItem

namespace ViewCategory

def all : List ViewCategory := [.allowed, .allowedForeground, .denied]

def name : ViewCategory → String
  | .allowed => "allowed"
  | .allowedForeground => "allowed_foreground"
  | .denied => "denied"

def decode : Decoder ViewCategory :=
  decodeChoice (all.map fun category => .unit category.name category)

def encode (category : ViewCategory) : Tree := .text category.name

end ViewCategory

namespace ViewRecord

def fields : Fields ViewRecord :=
  ViewRecord.mk <$> .required "session_id" decodeInt64
    <*> .required "view_id" decodeInt64
    <*> .required "package_name" decodeText
    <*> .required "group_name" decodeText
    <*> .required "category" ViewCategory.decode

def decode : Decoder ViewRecord := decodeRecord "struct ViewLogEntry" fields

def encode (record : ViewRecord) : Tree :=
  .record [("session_id", .int record.session.toInt), ("view_id", .int record.view.toInt),
    ("package_name", .text record.package), ("group_name", .text record.group),
    ("category", record.category.encode)]

end ViewRecord
end PermissionScreen
