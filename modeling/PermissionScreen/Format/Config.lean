import PermissionScreen.Config
import PermissionScreen.Json.Reader
import PermissionScreen.Json.Record
import PermissionScreen.Screen.Error

/-!
Settings in JSON, and the settings that a file holds. Whatever a file leaves out has the value that
settings start from.
-/

namespace PermissionScreen

open Json

namespace ClockStyle

def all : List ClockStyle := [.twelveHour, .twentyFourHour]

def name : ClockStyle → String
  | .twelveHour => "twelve_hour"
  | .twentyFourHour => "twenty_four_hour"

def decode : Decoder ClockStyle :=
  decodeChoice (all.map fun style => .unit style.name style)

def encode (style : ClockStyle) : Tree := .text style.name

end ClockStyle

namespace Messages

def fields : Fields Messages :=
  Messages.mk <$> .family Message.all
    (fun message => .withDefault message.key decodeText message.english) Message.english

def decode : Decoder Messages := decodeRecord "struct SummaryStrings" fields

def encode (messages : Messages) : Tree :=
  .record (Message.all.map fun message => (message.key, .text (messages.text message)))

end Messages

namespace Config

def fields : Fields Config :=
  Config.mk <$> .withDefault "time_format" ClockStyle.decode .twelveHour
    <*> .withDefault "utc_offset_minutes" decodeInt32 0
    <*> .withDefault "lookback_days" decodeUInt32 1
    <*> .withDefault "sensor_groups" (decodeList decodeText) PermissionScreen.sensorGroups
    <*> .withDefault "strings" Messages.decode Messages.english

def decode : Decoder Config := decodeRecord "struct ScreenConfig" fields

def encode (config : Config) : Tree :=
  .record [("time_format", config.clockStyle.encode),
    ("utc_offset_minutes", .int config.utcOffsetMinutes.toInt),
    ("lookback_days", .int config.lookbackDays.toNat),
    ("sensor_groups", .list (config.sensorGroups.map .text)),
    ("strings", config.messages.encode)]

/-- Refuses settings that have a problem. -/
def check (config : Config) : Except ScreenError Unit :=
  match config.problem? with
  | some problem => .error (.invalidConfig problem.text)
  | none => .ok ()

/-- The settings in a text. -/
def ofText (text : String) : Except ScreenError Config := do
  let config ← (decodeDocument decode (Document.ofText text)).mapError .serialization
  config.check
  return config

end Config

/-- The text of a file with these bytes; without bytes there is no file. -/
def readText (content : Option ByteArray) : Except ReadFault String :=
  match content with
  | none => .error .notFound
  | some bytes =>
      match String.fromUTF8? bytes with
      | some text => .ok text
      | none => .error .notText

/-- The settings in a file with these bytes. -/
def Config.ofFile (content : Option ByteArray) : Except ScreenError Config := do
  let text ← (readText content).mapError fun fault => .io fault.text
  Config.ofText text

end PermissionScreen
