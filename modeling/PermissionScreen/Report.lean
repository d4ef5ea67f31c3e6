import PermissionScreen.Screen.Model
import PermissionScreen.Text.Slot

/-!
A model as lines of text. A terminal may show headings in bold and what stands below them dimmed.
-/

namespace PermissionScreen.Report

/-- How a part of the report is set off. -/
inductive Emphasis where
  | bold
  | dimmed
  | red
  deriving DecidableEq, Repr

/-- What turns an emphasis on. -/
def Emphasis.on : Emphasis → String
  | .bold => "\x1b[1m"
  | .dimmed => "\x1b[2m"
  | .red => "\x1b[31m"

/-- What turns every emphasis off. -/
def off : String := "\x1b[0m"

/-- A text set off, if the terminal shows it. Where the text itself turns it off, it is turned on
again. -/
def emphasize (colored : Bool) (emphasis : Emphasis) (text : String) : String :=
  if colored then
    let kept := Text.replaceFrom off.toList (off ++ emphasis.on).toList 0 text.toList
    emphasis.on ++ String.ofList kept ++ off
  else text

/-- The line of an entry. -/
def entryLine (colored : Bool) (entry : Entry) : String :=
  "  " ++ entry.title ++
    match entry.summary with
    | some summary => "  " ++ emphasize colored .dimmed summary
    | none => ""

/-- The lines of a section; its heading is in capitals. -/
def sectionLines (colored : Bool) (shown : Section) : List String :=
  emphasize colored .bold (shown.category.name.map Char.toUpper) ::
    shown.entries.map (entryLine colored)

/-- The lines of the switch. -/
def autoRevokeLines (colored : Bool) (autoRevoke : AutoRevoke) : List String :=
  [emphasize colored .bold autoRevoke.label ++ (if autoRevoke.checked then " [on]" else " [off]"),
    "  " ++ emphasize colored .dimmed autoRevoke.summary]

/-- The lines of a model. -/
def lines (colored : Bool) (model : Model) : List String :=
  model.sections.flatMap (sectionLines colored) ++
    match model.autoRevoke with
    | some autoRevoke => autoRevokeLines colored autoRevoke
    | none => []

/-- Lines as one text. -/
def unlines (lines : List String) : String := String.join (lines.map (· ++ "\n"))

end PermissionScreen.Report
