import PermissionScreen.Feed
import PermissionScreen.Format.Config
import PermissionScreen.Format.Model
import PermissionScreen.Format.Screen
import PermissionScreen.Format.Usage

/-!
A snapshot of everything that a screen is told, in JSON.
-/

namespace PermissionScreen

open Json

structure Snapshot where
  args : Args
  config : Config
  groups : Option Groups
  hibernation : Option Hibernation
  usages : List AppUsage

namespace Snapshot

def fields : Fields Snapshot :=
  Snapshot.mk <$> .required "args" Args.decode
    <*> .withDefault "config" Config.decode {}
    <*> .optional "groups" Groups.decode
    <*> .optional "hibernation" Hibernation.decode
    <*> .withDefault "usages" (decodeList AppUsage.decode) []

def decode : Decoder Snapshot := decodeRecord "struct Snapshot" fields

/-- The snapshot in a text. -/
def ofText (text : String) : Except ScreenError Snapshot := do
  let snapshot ← (decodeDocument decode (Document.ofText text)).mapError .serialization
  snapshot.config.check
  return snapshot

/-- The sources after each has told what it has; the usages are those that are asked for at the
time of the start. -/
def feed (snapshot : Snapshot) (since : Int) : Feed :=
  let (_, feed) := Feed.forwardGroups {}
  let (_, feed) := feed.forwardHibernation
  ((feed.setGroups snapshot.groups).setHibernation snapshot.hibernation).load
    (.ok (loadUsages snapshot.usages since))

/-- The screen after it has been told everything. -/
def screen (snapshot : Snapshot) (moment : Moment) : Drained :=
  let screen : Screen := { args := snapshot.args, config := snapshot.config }
  let feed := snapshot.feed (screen.usageBegin moment.now)
  screen.drain (fun _ => moment) feed.channel.waiting

end Snapshot
end PermissionScreen
