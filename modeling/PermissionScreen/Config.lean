import PermissionScreen.Messages
import PermissionScreen.Usage.ClockText

/-!
The settings of a screen. Each has a value to start from.
-/

namespace PermissionScreen

/-- The platform groups whose use is told by the day. -/
def sensorGroups : List String :=
  ["android.permission-group.LOCATION", "android.permission-group.CAMERA",
    "android.permission-group.MICROPHONE"]

structure Config where
  clockStyle : ClockStyle := .twelveHour
  /-- Minutes east. -/
  utcOffsetMinutes : Int32 := 0
  /-- How many days of uses are looked at. -/
  lookbackDays : UInt32 := 1
  sensorGroups : List String := PermissionScreen.sensorGroups
  messages : Messages := Messages.english
  deriving DecidableEq

namespace Config

/-- The widest offset that is allowed, in minutes. -/
def maxOffsetMinutes : Int32 := 18 * 60

/-- Why settings are refused. -/
inductive Problem where
  | noLookback
  | offsetOutOfRange (minutes : Int32)
  deriving DecidableEq, Repr

def Problem.text : Problem → String
  | .noLookback => "lookback_days must be at least 1"
  | .offsetOutOfRange minutes => "utc_offset_minutes out of range: " ++ toString minutes.toInt

/-- The first thing that is wrong with the settings. The least number of 32 bits has no positive
counterpart, and is not found to be too far from zero. -/
def problem? (config : Config) : Option Problem :=
  if config.lookbackDays = 0 then some .noLookback
  else if maxOffsetMinutes < config.utcOffsetMinutes.abs then
    some (.offsetOutOfRange config.utcOffsetMinutes)
  else none

/-- The offset of the zone in seconds, which is calculated in 32 bits. An offset of a day or more
counts as none. -/
def offsetSeconds (config : Config) : Int :=
  let seconds := (config.utcOffsetMinutes * 60).toInt
  if -daySeconds < seconds ∧ seconds < daySeconds then seconds else 0

def zone (config : Config) : Zone := .fixed config.offsetSeconds

def isSensor (config : Config) (group : String) : Bool := config.sensorGroups.contains group

def withClockStyle (config : Config) (clockStyle : ClockStyle) : Config :=
  { config with clockStyle }

def withUtcOffsetMinutes (config : Config) (minutes : Int32) : Config :=
  { config with utcOffsetMinutes := minutes }

def withMessages (config : Config) (messages : Messages) : Config := { config with messages }

end Config
end PermissionScreen
