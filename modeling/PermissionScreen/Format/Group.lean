import PermissionScreen.Group.Basic
import PermissionScreen.Json.Record

/-!
Permission groups in JSON.
-/

namespace PermissionScreen

open Json

def Category.variants : List (Variant Category) :=
  Category.all.map fun category => .unit category.name category

def Category.decode : Decoder Category := decodeChoice Category.variants

def Category.encode (category : Category) : Tree := .text category.name

namespace Subtitle

def all : List Subtitle := [.plain, .foregroundOnly, .mediaOnly, .allFiles]

def name : Subtitle → String
  | .plain => "default"
  | .foregroundOnly => "foreground_only"
  | .mediaOnly => "media_only"
  | .allFiles => "all_files"

def variants : List (Variant Subtitle) :=
  all.map fun subtitle => .unit subtitle.name subtitle

def decode : Decoder Subtitle := decodeChoice variants

def encode (subtitle : Subtitle) : Tree := .text subtitle.name

end Subtitle

namespace Descriptor

def fields : Fields Descriptor :=
  Descriptor.mk <$> .required "group_name" decodeText
    <*> .withDefault "subtitle" Subtitle.decode .plain
    <*> .withDefault "is_system" decodeBool true

def decode : Decoder Descriptor := decodeRecord "struct PermissionGroupDescriptor" fields

def encode (descriptor : Descriptor) : Tree :=
  .record [("group_name", .text descriptor.group), ("subtitle", descriptor.subtitle.encode),
    ("is_system", .bool descriptor.isSystem)]

end Descriptor

namespace Groups

/-- Lists groups by category. A category that is given twice keeps the last list. -/
def ofEntries (entries : List (Category × List Descriptor)) : Groups :=
  entries.foldl (fun groups entry => groups.set entry.1 entry.2) empty

def decode : Decoder Groups := fun tree =>
  (decodeMap (decodeName Category.variants) (decodeList Descriptor.decode) tree).map ofEntries

/-- The categories that are listed, with their groups. -/
def entries (groups : Groups) : List (Category × List Descriptor) :=
  Category.all.filterMap fun category => (groups.listed category).map (category, ·)

def encode (groups : Groups) : Tree :=
  .record (groups.entries.map fun entry => (entry.1.name, .list (entry.2.map Descriptor.encode)))

end Groups
end PermissionScreen
