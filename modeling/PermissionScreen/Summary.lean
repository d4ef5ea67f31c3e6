import PermissionScreen.Group.Basic
import PermissionScreen.Messages
import PermissionScreen.Text.Enumeration
import PermissionScreen.Text.Slot
import PermissionScreen.Usage.Recency

/-!
The texts that the screen makes from its messages: the line under a group's title, the number of
groups on another screen, what stands in an empty section, and lists of titles.
-/

namespace PermissionScreen

/-- The message for a kind of access and its recency. A group with full access that was not used
has none. -/
def summaryMessage? : Subtitle → Recency → Option Message
  | .plain, .sensorToday => some .accessToday
  | .plain, .sensorYesterday => some .accessYesterday
  | .plain, .contentProviderRecent => some .accessContentProvider
  | .plain, .notRecent => none
  | .foregroundOnly, .sensorToday => some .accessTodayForeground
  | .foregroundOnly, .sensorYesterday => some .accessYesterdayForeground
  | .foregroundOnly, .contentProviderRecent => some .accessContentProviderForeground
  | .foregroundOnly, .notRecent => some .subtitleForeground
  | .mediaOnly, .sensorToday => some .accessTodayMedia
  | .mediaOnly, .sensorYesterday => some .accessYesterdayMedia
  | .mediaOnly, .contentProviderRecent => some .accessContentProviderMedia
  | .mediaOnly, .notRecent => some .subtitleMedia
  | .allFiles, .sensorToday => some .accessTodayAllFiles
  | .allFiles, .sensorYesterday => some .accessYesterdayAllFiles
  | .allFiles, .contentProviderRecent => some .accessContentProviderAllFiles
  | .allFiles, .notRecent => some .subtitleAllFiles

namespace Messages

/-- The template of the line under a group's title. -/
def summaryTemplate? (messages : Messages) (subtitle : Subtitle) (recency : Recency) :
    Option String :=
  (summaryMessage? subtitle recency).map messages.text

/-- The line under a group's title, with the time of its last access. -/
def summary? (messages : Messages) (subtitle : Subtitle) (recency : Recency) (time : String) :
    Option String :=
  (messages.summaryTemplate? subtitle recency).map (Text.fill "time" time)

/-- How many groups the screen of additional permissions has. -/
def additionalMore (messages : Messages) (count : Nat) : String :=
  Text.fill "count" (toString count)
    (messages.text (if count = 1 then .additionalPermissionsOne else .additionalPermissionsOther))

/-- What stands in a section without groups. -/
def emptySection (messages : Messages) (denied : Bool) : String :=
  messages.text (if denied then .noPermissionsDenied else .noPermissionsAllowed)

/-- The separators of a list of titles. -/
def separators (messages : Messages) : Text.Separators :=
  ⟨messages.text .listPairSeparator, messages.text .listSeparator,
    messages.text .listFinalSeparator⟩

end Messages
end PermissionScreen
