import PermissionScreen.Screen.EntryOrder
import PermissionScreen.Summary

/-!
The switch for revoking the permissions of an unused app. It is there if revoking is turned on as a
whole, and says which of the groups on display would be revoked.
-/

namespace PermissionScreen

/-- The settings of revoking for an app. -/
structure Hibernation where
  enabledGlobal : Bool
  enabledForApp : Bool
  allowUserToggle : Bool
  revocableGroups : List String := []
  deriving DecidableEq, Repr

namespace Hibernation

/-- The titles of the groups that would be revoked, as far as they are on display. -/
def revocableTitles (hibernation : Hibernation) (allowed : Option Section) : List String :=
  hibernation.revocableGroups.filterMap fun group =>
    (allowed.bind (·.find? group)).map (·.title)

/-- What the switch says below its label. -/
def summary (messages : Messages) (titles : List String) : String :=
  if titles.isEmpty then messages.text .autoRevokeSummary
  else
    Text.fill "permissions" (messages.separators.enumerate titles)
      (messages.text .autoRevokeSummaryWithPermissions)

/-- The switch, given the section of the allowed groups. -/
def autoRevoke? (hibernation : Hibernation) (allowed : Option Section) (messages : Messages) :
    Option AutoRevoke :=
  if hibernation.enabledGlobal then
    some {
      label := messages.text .autoRevokeLabel
      checked := hibernation.enabledForApp
      enabled := hibernation.allowUserToggle
      summary := summary messages (Alphabet.unicode.sort (hibernation.revocableTitles allowed)) }
  else none

end Hibernation
end PermissionScreen
