import FillScript.Script.Template
import FillScript.Text.Blank
import FillScript.Text.Split

/-!
# Reading scripts

A script is read line by line, after what follows an inline comment, the blanks around each line and
empty lines are dropped. A header of directives comes first; `---` or the first sheet marker ends
it. A marker, `#` and a name, starts the lines for a sheet. Every text is a script: what says
nothing is left out and noted.
-/

namespace FillScript

/-! ## Notes -/

/-- What was passed over in a script. -/
inductive ScriptNote where
  | unknownParam (param : String)
  | ignoredHeader (line : String)
  | namelessMarker
  | strayLine (line : String)
deriving DecidableEq, Repr

namespace ScriptNote

/-- What is said about it. -/
def message : ScriptNote → String
  | unknownParam param => "unrecognized param: " ++ param
  | ignoredHeader line => "ignoring header line: " ++ line
  | namelessMarker => "ignoring sheet marker without a name"
  | strayLine line => "dropping line outside any sheet: " ++ line

end ScriptNote

namespace Script

/-! ## Lines -/

/-- The line that ends the header. -/
def headerEnd : String := "---"

/-- What follows this on a line is dropped. -/
def inlineComment : String := "#comment"

/-- The flag of scripts that address columns by title. -/
def useTitleParam : String := "use-title"

/-- A line without its inline comment and the blanks around it. -/
def normalised (line : List Char) : List Char :=
  Text.trimmed (Text.cutAt inlineComment.toList line)

/-- The lines of a script that say something. -/
def normalisedLines (s : String) : List (List Char) :=
  ((Text.lines s).map normalised).filter (!·.isEmpty)

/-- The items of a list, which commas separate. -/
def items (cs : List Char) : List String :=
  (((Text.splitAll ',' cs).map Text.trimmed).filter (!·.isEmpty)).map String.ofList

/-- The name in a sheet marker: empty if it has none, nothing if the line is no marker. -/
def marker? : List Char → Option (List Char)
  | '#' :: rest => some (Text.trimmed (rest.dropWhile (· == '#')))
  | _ => none

/-! ## The header -/

/-- A line of the header. -/
inductive Directive where
  | file (path : Path)
  | output (path : Path)
  | params (flags : List String)
  | fill (titles : List String)
  | other (line : String)
deriving DecidableEq

/-- Characters as a path, without the blanks around them. -/
def pathOf (cs : List Char) : Path :=
  ⟨String.ofList (Text.trimmed cs)⟩

/-- What a line of the header says. -/
def directive (line : List Char) : Directive :=
  match "file:".toList.isPrefixOf? line with
  | some rest => .file (pathOf rest)
  | none =>
    match "output:".toList.isPrefixOf? line with
    | some rest => .output (pathOf rest)
    | none =>
      match "params:".toList.isPrefixOf? line with
      | some rest => .params (items (Text.lowerAfter [] rest))
      | none =>
        match "fill:".toList.isPrefixOf? line with
        | some rest => .fill (items rest)
        | none => .other (String.ofList line)

/-- The template after a line of the header. A directive replaces an earlier one of its kind, but
once a script addresses columns by title it does so to the end. -/
def applyDirective (template : Template) : Directive → Template
  | .file path => { template with source := path }
  | .output path => { template with output := path }
  | .params flags =>
    { template with params := flags, useTitle := template.useTitle || flags.contains useTitleParam }
  | .fill titles => { template with fillColumns := titles }
  | .other _ => template

/-- What is passed over in a line of the header. -/
def directiveNotes : Directive → List ScriptNote
  | .params flags => (flags.filter (· != useTitleParam)).map .unknownParam
  | .other line => [.ignoredHeader line]
  | _ => []

/-! ## Reading on -/

/-- How far a script has been read. -/
structure Draft where
  template : Template
  inHeader : Bool
  /-- The section that is being read, with its lines so far, last first. -/
  current : Option Section
  /-- What was passed over, last first. -/
  notes : List ScriptNote

namespace Draft

/-- Nothing has been read. -/
def start : Draft :=
  ⟨.empty, true, none, []⟩

/-- The template with the section that is being read. -/
def committed (draft : Draft) : Template :=
  match draft.current with
  | some reading =>
    { draft.template with
      sections := draft.template.sections.commit reading.name reading.lines.reverse }
  | none => draft.template

/-- The draft after a sheet marker. -/
def mark (draft : Draft) (name : List Char) : Draft :=
  if name.isEmpty then ⟨draft.committed, false, none, .namelessMarker :: draft.notes⟩
  else ⟨draft.committed, false, some ⟨String.ofList name, []⟩, draft.notes⟩

/-- The draft after a line of the header. -/
def feedHeader (draft : Draft) (line : List Char) : Draft :=
  if line = headerEnd.toList then { draft with inHeader := false }
  else
    let said := directive line
    { draft with
      template := applyDirective draft.template said
      notes := (directiveNotes said).reverse ++ draft.notes }

/-- The draft after a line for a sheet. -/
def feedBody (draft : Draft) (line : List Char) : Draft :=
  let text := String.ofList line
  match draft.current with
  | some reading => { draft with current := some { reading with lines := text :: reading.lines } }
  | none => { draft with notes := .strayLine text :: draft.notes }

/-- The draft after a line that says something. -/
def feed (draft : Draft) (line : List Char) : Draft :=
  match marker? line with
  | some name => draft.mark name
  | none => if draft.inHeader then draft.feedHeader line else draft.feedBody line

end Draft

/-- The draft when all lines of a script have been read. -/
def readLines (lines : List (List Char)) : Draft :=
  lines.foldl Draft.feed .start

end Script

namespace Template

/-- The template that a text is. -/
def ofText (s : String) : Template :=
  (Script.readLines (Script.normalisedLines s)).committed

/-- What is passed over in a text, in its order. -/
def notesOfText (s : String) : List ScriptNote :=
  (Script.readLines (Script.normalisedLines s)).notes.reverse

end Template

end FillScript
