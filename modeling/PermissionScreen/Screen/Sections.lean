import PermissionScreen.Config
import PermissionScreen.Group.Label
import PermissionScreen.Screen.EntryOrder
import PermissionScreen.Summary

/-!
The sections of a screen. A group is shown once, where it is listed first; groups that belong to the
other screen are counted on the platform's screen and left out on the other. A section without
entries gets one that says so.
-/

namespace PermissionScreen

/-- What a screen is made for: its settings, its app, the recorded accesses and the time. -/
structure Scene where
  config : Config
  args : Args
  records : Records
  now : Int

namespace Scene

/-- The recency of a group's last access, by the clock of a zone. -/
def recency (scene : Scene) (zone : Zone) (group : String) : Recency :=
  classify zone scene.now ((scene.records.lastAccess group).map Int64.toInt)
    (scene.config.isSensor group)

/-- The time of a group's last access, if it is recent. -/
def accessTime (scene : Scene) (zone : Zone) (group : String) : String :=
  match scene.records.lastAccess group with
  | some time =>
      if (scene.recency zone group).isRecent then
        scene.config.clockStyle.textAt time.toInt scene.config.offsetSeconds
      else ""
  | none => ""

/-- The entry of a group. The day is that of `zone`, the time of day that of the settings. -/
def groupEntryIn (scene : Scene) (zone : Zone) (source : Category) (descriptor : Descriptor) :
    Entry where
  key := descriptor.group
  title := descriptor.label
  summary := scene.config.messages.summary? descriptor.subtitle
    (scene.recency zone descriptor.group) (scene.accessTime zone descriptor.group)
  icon := some (.group descriptor.group)
  action := .openGroup descriptor.group source
  secondaryIcon := if scene.args.showsUsage then some .info else none
  secondaryAction := if scene.args.showsUsage then some (.viewUsage descriptor.group) else none
  kind := .group descriptor.group source descriptor.subtitle

/-- The entry of a group in the zone of the settings. -/
def groupEntry (scene : Scene) : Category → Descriptor → Entry :=
  scene.groupEntryIn scene.config.zone

/-- The entry that counts the groups on the other screen. -/
def additionalEntry (scene : Scene) (category : Category) (count : Nat) : Entry :=
  let messages := scene.config.messages
  { key := messages.text .additionalPermissions ++ category.name
    title := messages.text .additionalPermissions
    summary := some (messages.additionalMore count)
    icon := some .additional
    action := .showAdditional scene.args.additional
    kind := .additional count }

/-- The entry of a section that has no other. -/
def placeholderEntry (scene : Scene) (category : Category) : Entry :=
  let message := scene.config.messages.emptySection (category = .denied)
  { key := message, title := message, action := .none, kind := .placeholder }

end Scene

/-- What becomes of the groups of a section: those that it shows, the number of those that it
counts, and the names that have been listed so far. -/
structure Selection where
  shown : List (Category × Descriptor)
  counted : Nat
  seen : List String

/-- Goes through the groups of a section. A name that has been listed before is passed over. -/
def select (onSystem : Bool) (seen : List String) : List (Category × Descriptor) → Selection
  | [] => ⟨[], 0, seen⟩
  | (source, descriptor) :: rest =>
      if descriptor.group ∈ seen then select onSystem seen rest
      else
        let later := select onSystem (descriptor.group :: seen) rest
        if descriptor.isSystem = onSystem then
          { later with shown := (source, descriptor) :: later.shown }
        else if descriptor.isSystem then later
        else { later with counted := later.counted + 1 }

namespace Scene

/-- The entries of a section, sorted. -/
def entries (scene : Scene) (category : Category) (selection : Selection) : List Entry :=
  let groups := selection.shown.map fun listing => scene.groupEntry listing.1 listing.2
  let counted :=
    if 0 < selection.counted then [scene.additionalEntry category selection.counted] else []
  let all := groups ++ counted
  sortEntries .unicode (if all.isEmpty then [scene.placeholderEntry category] else all)

/-- The categories that a section shows. -/
def sources (category : Category) : List Category :=
  Category.all.filter fun source => source.display = category

/-- The sections of the categories, one after the other. Where nothing is listed to be asked for,
there is no section for it. -/
def sectionsFrom (scene : Scene) (groups : Groups) (seen : List String) :
    List Category → List Section
  | [] => []
  | category :: rest =>
      let listings := groups.listings (sources category)
      if category = .ask ∧ listings = [] then scene.sectionsFrom groups seen rest
      else
        let selection := select scene.args.isSystem seen listings
        ⟨category, scene.entries category selection⟩ ::
          scene.sectionsFrom groups selection.seen rest

/-- The categories that have a section, in order. -/
def displayOrder : List Category := [.allowed, .ask, .denied]

/-- The sections of the screen. -/
def sections (scene : Scene) (groups : Groups) : List Section :=
  scene.sectionsFrom groups [] displayOrder

end Scene
end PermissionScreen
