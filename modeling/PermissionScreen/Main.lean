import PermissionScreen.CommandLine
import Std.Time.Format

/-!
The program: it looks at its arguments, its environment and the clock, runs the command line and
prints what comes of it. A log is a file of the day in the directory that APP_PERMS_LOG_DIR names.
-/

namespace PermissionScreen.CommandLine

/-- The milliseconds since the epoch. -/
def wallClock : IO Int := do
  return (← Std.Time.Timestamp.now).toMillisecondsSinceUnixEpoch.val

/-- The name of the log of a day. -/
def logName (now : Int) : String :=
  let day := Std.Time.PlainDate.ofEpochDay (Std.Time.Day.Offset.ofInt (now / dayMillis))
  "app-perms.log." ++ day.format "uuuu-MM-dd"

/-- Makes the log directory with the log of the day in it. -/
def openLog (now : Int) : IO LogPlace := do
  match ← IO.getEnv "APP_PERMS_LOG_DIR" with
  | none => return .nowhere
  | some directory =>
      try
        IO.FS.createDirAll directory
        let log ← IO.FS.Handle.mk (directory ++ "/" ++ logName now) .append
        log.flush
        return .directory
      catch _ => return .unusable

/-- The bytes of a file, if it can be read. -/
def readBytes (path : String) : IO (Option ByteArray) := do
  try return some (← IO.FS.readBinFile path)
  catch _ => return none

/-- Whether output is colored: if the environment asks for it, or else on a terminal, unless the
environment forbids it. -/
def wantsColor : IO Bool := do
  let force ← IO.getEnv "CLICOLOR_FORCE"
  if force.any (· ≠ "0") then return true
  if (← IO.getEnv "NO_COLOR").isSome then return false
  if (← IO.getEnv "CLICOLOR") = some "0" then return false
  (← IO.getStdout).isTty

/-- A number for a view. -/
def viewNumber : IO Int64 := do
  return Int64.ofNat (← IO.rand 0 (UInt64.size - 1))

/-- Runs the command line in the world, and gives the exit code. -/
def start (arguments : List String) : IO UInt32 := do
  let now ← wallClock
  let launch : Launch := {
    logPlace := ← openLog now
    file := ← arguments.head?.mapM readBytes
    colored := ← wantsColor
    moment := ⟨now, ← viewNumber⟩ }
  let finish := run launch
  (← IO.getStdout).putStr finish.output
  (← IO.getStderr).putStr finish.errorOutput
  return finish.exitCode.toUInt32

end PermissionScreen.CommandLine

def main (arguments : List String) : IO UInt32 :=
  PermissionScreen.CommandLine.start arguments
