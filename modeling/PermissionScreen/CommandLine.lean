import PermissionScreen.Format.Snapshot
import PermissionScreen.Report

/-!
The command line: it shows the screen that a snapshot leads to, as a report.
-/

namespace PermissionScreen.CommandLine

/-- Where a log is kept, if one is asked for. -/
inductive LogPlace where
  | nowhere
  | directory
  /-- A directory that cannot be made. -/
  | unusable
  deriving DecidableEq, Repr

/-- What the command line is started with. -/
structure Launch where
  logPlace : LogPlace
  /-- The bytes of the file that is named; inner nothing is a file that does not exist, outer nothing
  that none is named. -/
  file : Option (Option ByteArray)
  colored : Bool
  moment : Moment

/-- Why no report is given. -/
inductive Refusal where
  | noLog
  | noFile
  | unreadable (fault : ReadFault)
  | screen (error : ScreenError)
  deriving DecidableEq, Repr

def Refusal.text : Refusal → String
  | .noLog => "the log directory cannot be made"
  | .noFile => "usage: app-perms <snapshot.json>"
  | .unreadable fault => "reading the snapshot: " ++ fault.text
  | .screen error => error.message

/-- How the command line ends. -/
structure Finish where
  exitCode : UInt8
  output : String
  errorOutput : String
  /-- The number of log files, where a directory for them was asked for. -/
  logFiles : Option Nat
  deriving DecidableEq, Repr

/-- The messages that a screen asks to be shown as errors. -/
def shownErrors (calls : List HostCall) : List String :=
  calls.filterMap fun
    | .showError message => some message
    | _ => none

/-- What comes of the events of a snapshot: the error at which they end, or else the model. -/
def outcome (drained : Drained) : Except Refusal Model :=
  match drained.error, drained.screen.model with
  | some error, _ => .error (.screen error)
  | none, some model => .ok model
  | none, none => .ok ⟨[], none⟩

/-- The model that a file leads to, with the errors that are shown on the way. -/
def view (launch : Launch) : Except Refusal Model × List String :=
  match launch.logPlace, launch.file with
  | .unusable, _ => (.error .noLog, [])
  | _, none => (.error .noFile, [])
  | _, some content =>
      match readText content with
      | .error fault => (.error (.unreadable fault), [])
      | .ok text =>
          match Snapshot.ofText text with
          | .error error => (.error (.screen error), [])
          | .ok snapshot =>
              let drained := snapshot.screen launch.moment
              (outcome drained, shownErrors drained.calls)

/-- The log has one file for the day, whatever comes of the snapshot. -/
def logFiles : LogPlace → Option Nat
  | .nowhere => none
  | .directory => some 1
  | .unusable => some 0

/-- Runs the command line. -/
def run (launch : Launch) : Finish :=
  let (outcome, errors) := view launch
  let shown := errors.map (Report.emphasize launch.colored .red)
  match outcome with
  | .ok model =>
      ⟨0, Report.unlines (Report.lines launch.colored model), Report.unlines shown,
        logFiles launch.logPlace⟩
  | .error refusal =>
      ⟨1, "", Report.unlines (shown ++ ["Error: " ++ refusal.text]), logFiles launch.logPlace⟩

end PermissionScreen.CommandLine
