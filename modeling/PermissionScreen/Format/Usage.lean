import PermissionScreen.Json.Record
import PermissionScreen.Usage.Recency

/-!
Reports of usages and their recency in JSON.
-/

namespace PermissionScreen

open Json

namespace GroupUsage

def fields : Fields GroupUsage :=
  GroupUsage.mk <$> .required "group_name" decodeText
    <*> .withDefault "last_access_time" decodeInt64 0

def decode : Decoder GroupUsage := decodeRecord "struct GroupUsage" fields

def encode (usage : GroupUsage) : Tree :=
  .record [("group_name", .text usage.group), ("last_access_time", .int usage.lastAccess.toInt)]

end GroupUsage

namespace AppUsage

def fields : Fields AppUsage :=
  AppUsage.mk <$> .required "package_name" decodeText
    <*> .withDefault "group_usages" (decodeList GroupUsage.decode) []

def decode : Decoder AppUsage := decodeRecord "struct AppPermissionUsage" fields

def encode (usage : AppUsage) : Tree :=
  .record [("package_name", .text usage.package),
    ("group_usages", .list (usage.groups.map GroupUsage.encode))]

end AppUsage

namespace Recency

def all : List Recency := [.sensorToday, .sensorYesterday, .contentProviderRecent, .notRecent]

def name : Recency → String
  | .sensorToday => "sensor_today"
  | .sensorYesterday => "sensor_yesterday"
  | .contentProviderRecent => "content_provider_recent"
  | .notRecent => "not_recent"

def decode : Decoder Recency :=
  decodeChoice (all.map fun recency => .unit recency.name recency)

def encode (recency : Recency) : Tree := .text recency.name

end Recency
end PermissionScreen
