/-!
The messages of the screen. Each has a key and an English text, and can be given another text.
Slots in braces are filled when a message is shown.
-/

namespace PermissionScreen

inductive Message where
  | accessToday
  | accessYesterday
  | accessContentProvider
  | accessTodayForeground
  | accessYesterdayForeground
  | accessContentProviderForeground
  | subtitleForeground
  | accessTodayMedia
  | accessYesterdayMedia
  | accessContentProviderMedia
  | subtitleMedia
  | accessTodayAllFiles
  | accessYesterdayAllFiles
  | accessContentProviderAllFiles
  | subtitleAllFiles
  | additionalPermissions
  | additionalPermissionsOne
  | additionalPermissionsOther
  | noPermissionsAllowed
  | noPermissionsDenied
  | autoRevokeLabel
  | autoRevokeSummary
  | autoRevokeSummaryWithPermissions
  | appNotFound
  | allPermissions
  | help
  | listPairSeparator
  | listSeparator
  | listFinalSeparator
  deriving DecidableEq, Repr

namespace Message

/-- All messages, in the order in which a table lists them. -/
def all : List Message := [
  .accessToday, .accessYesterday, .accessContentProvider, .accessTodayForeground,
  .accessYesterdayForeground, .accessContentProviderForeground, .subtitleForeground,
  .accessTodayMedia, .accessYesterdayMedia, .accessContentProviderMedia, .subtitleMedia,
  .accessTodayAllFiles, .accessYesterdayAllFiles, .accessContentProviderAllFiles,
  .subtitleAllFiles, .additionalPermissions, .additionalPermissionsOne,
  .additionalPermissionsOther, .noPermissionsAllowed, .noPermissionsDenied, .autoRevokeLabel,
  .autoRevokeSummary, .autoRevokeSummaryWithPermissions, .appNotFound, .allPermissions, .help,
  .listPairSeparator, .listSeparator, .listFinalSeparator]

/-- The name of a message in a table. -/
def key : Message → String
  | .accessToday => "access_today"
  | .accessYesterday => "access_yesterday"
  | .accessContentProvider => "access_content_provider"
  | .accessTodayForeground => "access_today_foreground"
  | .accessYesterdayForeground => "access_yesterday_foreground"
  | .accessContentProviderForeground => "access_content_provider_foreground"
  | .subtitleForeground => "subtitle_foreground"
  | .accessTodayMedia => "access_today_media"
  | .accessYesterdayMedia => "access_yesterday_media"
  | .accessContentProviderMedia => "access_content_provider_media"
  | .subtitleMedia => "subtitle_media"
  | .accessTodayAllFiles => "access_today_all_files"
  | .accessYesterdayAllFiles => "access_yesterday_all_files"
  | .accessContentProviderAllFiles => "access_content_provider_all_files"
  | .subtitleAllFiles => "subtitle_all_files"
  | .additionalPermissions => "additional_permissions"
  | .additionalPermissionsOne => "additional_permissions_one"
  | .additionalPermissionsOther => "additional_permissions_other"
  | .noPermissionsAllowed => "no_permissions_allowed"
  | .noPermissionsDenied => "no_permissions_denied"
  | .autoRevokeLabel => "auto_revoke_label"
  | .autoRevokeSummary => "auto_revoke_summary"
  | .autoRevokeSummaryWithPermissions => "auto_revoke_summary_with_permissions"
  | .appNotFound => "app_not_found"
  | .allPermissions => "all_permissions"
  | .help => "help"
  | .listPairSeparator => "list_pair_separator"
  | .listSeparator => "list_separator"
  | .listFinalSeparator => "list_final_separator"

/-- The English text of a message. -/
def english : Message → String
  | .accessToday => "Used at \x7btime\x7d"
  | .accessYesterday => "Used yesterday at \x7btime\x7d"
  | .accessContentProvider => "Used in past 24 hours"
  | .accessTodayForeground => "Used at \x7btime\x7d • Only while app is in use"
  | .accessYesterdayForeground => "Used yesterday at \x7btime\x7d • Only while app is in use"
  | .accessContentProviderForeground => "Used in past 24 hours • Only while app is in use"
  | .subtitleForeground => "Only while app is in use"
  | .accessTodayMedia => "Used at \x7btime\x7d • Media only"
  | .accessYesterdayMedia => "Used yesterday at \x7btime\x7d • Media only"
  | .accessContentProviderMedia => "Used in past 24 hours • Media only"
  | .subtitleMedia => "Media only"
  | .accessTodayAllFiles => "Used at \x7btime\x7d • All Files"
  | .accessYesterdayAllFiles => "Used yesterday at \x7btime\x7d • All Files"
  | .accessContentProviderAllFiles => "Used in past 24 hours • All Files"
  | .subtitleAllFiles => "All Files"
  | .additionalPermissions => "Additional permissions"
  | .additionalPermissionsOne => "\x7bcount\x7d more"
  | .additionalPermissionsOther => "\x7bcount\x7d more"
  | .noPermissionsAllowed => "No permissions allowed"
  | .noPermissionsDenied => "No permissions denied"
  | .autoRevokeLabel => "Remove permissions if app isn’t used"
  | .autoRevokeSummary =>
      "To protect your data, permissions for this app will be removed if the app is " ++
        "unused for a few months."
  | .autoRevokeSummaryWithPermissions =>
      "To protect your data, if the app is unused for a few months, the following " ++
        "permissions will be removed: \x7bpermissions\x7d"
  | .appNotFound => "App not found"
  | .allPermissions => "All permissions"
  | .help => "Help"
  | .listPairSeparator => " and "
  | .listSeparator => ", "
  | .listFinalSeparator => ", and "

theorem mem_all (message : Message) : message ∈ all := by cases message <;> decide

theorem nodup_keys : (all.map key).Nodup := by decide

end Message

/-- A table gives each message a text. -/
structure Messages where
  text : Message → String

namespace Messages

/-- The table of the English texts. -/
def english : Messages := ⟨Message.english⟩

theorem ext_text {messages others : Messages}
    (h : ∀ message, messages.text message = others.text message) : messages = others := by
  cases messages
  cases others
  congr
  exact funext h

instance : DecidableEq Messages := fun messages others =>
  decidable_of_iff (∀ message ∈ Message.all, messages.text message = others.text message)
    ⟨fun h => ext_text fun message => h message message.mem_all, fun h _ _ => h ▸ rfl⟩

end Messages
end PermissionScreen
