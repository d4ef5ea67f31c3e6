import PermissionScreen.Collation
import PermissionScreen.CommandLine
import PermissionScreen.Config
import PermissionScreen.Decimal.Binary
import PermissionScreen.Decimal.Shortest
import PermissionScreen.Describe
import PermissionScreen.Feed
import PermissionScreen.Format.Config
import PermissionScreen.Format.Group
import PermissionScreen.Format.Model
import PermissionScreen.Format.Screen
import PermissionScreen.Format.Snapshot
import PermissionScreen.Format.Usage
import PermissionScreen.Group.Basic
import PermissionScreen.Group.Label
import PermissionScreen.Json.Decode
import PermissionScreen.Json.Escape
import PermissionScreen.Json.Fault
import PermissionScreen.Json.Numeral
import PermissionScreen.Json.Reader
import PermissionScreen.Json.Record
import PermissionScreen.Json.Token
import PermissionScreen.Json.Tree
import PermissionScreen.Json.Writer
import PermissionScreen.Main
import PermissionScreen.Messages
import PermissionScreen.Observable.Basic
import PermissionScreen.Observable.Habit
import PermissionScreen.Proofs.Group.FirstListing
import PermissionScreen.Proofs.Observable.Course
import PermissionScreen.Proofs.Observable.Numbering
import PermissionScreen.Proofs.Screen.Arrival
import PermissionScreen.Proofs.Screen.Calls
import PermissionScreen.Proofs.Screen.Coverage
import PermissionScreen.Proofs.Screen.History
import PermissionScreen.Proofs.Screen.Layout
import PermissionScreen.Proofs.Screen.Summaries
import PermissionScreen.Report
import PermissionScreen.Screen.Basic
import PermissionScreen.Screen.EntryOrder
import PermissionScreen.Screen.Error
import PermissionScreen.Screen.Hibernation
import PermissionScreen.Screen.Model
import PermissionScreen.Screen.Sections
import PermissionScreen.Screen.ViewLog
import PermissionScreen.Summary
import PermissionScreen.Text.Enumeration
import PermissionScreen.Text.Quoted
import PermissionScreen.Text.Slot
import PermissionScreen.Unicode.Case
import PermissionScreen.Unicode.CombiningClass
import PermissionScreen.Unicode.Decomposition
import PermissionScreen.Unicode.LowerText
import PermissionScreen.Unicode.Mark
import PermissionScreen.Unicode.Range
import PermissionScreen.Unicode.Shown
import PermissionScreen.Usage.ClockText
import PermissionScreen.Usage.Recency
import PermissionScreen.Usage.Records
import PermissionScreen.Usage.Zone
import PermissionScreen.Proofs.Observable.Delivery
import PermissionScreen.Proofs.Observable.LastTold
import PermissionScreen.Proofs.Screen.Keys
import PermissionScreen.Proofs.Screen.Views
import PermissionScreen.Proofs.Screen.Draining
import PermissionScreen.Proofs.Feed.Conservation
import PermissionScreen.Proofs.Screen.Switch
import PermissionScreen.Proofs.Screen.UsageLoad
import PermissionScreen.Proofs.Sorting.Entries
import PermissionScreen.Proofs.Screen.Shape
import PermissionScreen.Proofs.Screen.LocalTime
import PermissionScreen.Proofs.Screen.Lookup
import PermissionScreen.Proofs.Sorting.Accents
import PermissionScreen.Proofs.Screen.Revocable
import PermissionScreen.Proofs.Usage.Latest
import PermissionScreen.Proofs.Screen.Loaded
import PermissionScreen.Proofs.Screen.LookbackLength
import PermissionScreen.Proofs.Json.Grammar
import PermissionScreen.Proofs.Screen.ListingOrder
import PermissionScreen.Proofs.Screen.Tapping
import PermissionScreen.Proofs.Json.Writing
import PermissionScreen.Proofs.Json.Records
import PermissionScreen.Proofs.Json.Recovery
import PermissionScreen.Proofs.Json.Yields
import PermissionScreen.Proofs.Format.Overrides
import PermissionScreen.Proofs.Format.RoundTrip
import PermissionScreen.Proofs.Observable.Issued
import PermissionScreen.Proofs.Observable.Settling
import PermissionScreen.Proofs.Usage.Overflow
import PermissionScreen.Proofs.Usage.TimeOfDay
import PermissionScreen.Proofs.Width
