import FillScript.Fill.Cursor
import FillScript.Fill.Event
import FillScript.Fill.Search

/-!
# Filling a sheet

A session is one sheet of a document while its commands are carried out, together with what was
counted and reported. The header and the last row are those the sheet had when the session began.
-/

namespace FillScript

/-! ## Counts -/

/-- How many commands had which effect. -/
structure Stats where
  writes : Nat
  appends : Nat
  findsHit : Nat
  findsMissed : Nat
  skippedWrites : Nat
  unrecognized : Nat
deriving DecidableEq, Repr

namespace Stats

/-- Nothing was counted. -/
def zero : Stats :=
  ⟨0, 0, 0, 0, 0, 0⟩

/-- The counts of two together. -/
def add (s t : Stats) : Stats where
  writes := s.writes + t.writes
  appends := s.appends + t.appends
  findsHit := s.findsHit + t.findsHit
  findsMissed := s.findsMissed + t.findsMissed
  skippedWrites := s.skippedWrites + t.skippedWrites
  unrecognized := s.unrecognized + t.unrecognized

instance : Add Stats := ⟨add⟩

end Stats

/-! ## Sessions -/

/-- A value as it is stored: an apostrophe keeps one that starts with a dash a text. -/
def escaped (value : String) : String :=
  if value.toList.head? == some '-' then "'" ++ value else value

/-- A sheet while its commands are carried out. -/
structure Session (δ : Type) where
  doc : δ
  sheet : String
  fillColumns : List String
  header : List String
  lastRow : Option UInt32
  stats : Stats
  log : Log

namespace Session

variable {δ : Type} [Document δ]

/-- The session at the start. -/
def start (doc : δ) (sheet : String) (fillColumns : List String) : Session δ where
  doc
  sheet
  fillColumns
  header := Document.header doc sheet
  lastRow := Document.lastUsedRow doc sheet
  stats := .zero
  log := #[]

/-- Whether a column is filled and not searched. -/
def isFillable (s : Session δ) (title : String) : Bool :=
  s.fillColumns.contains title

/-- The first column with a title; -1 if there is none. -/
def columnOf (s : Session δ) (title : String) : Int :=
  match s.header.findIdx? (· == title) with
  | some col => col
  | none => -1

/-- The session with an event reported. -/
def report (s : Session δ) (event : Event) : Session δ :=
  { s with log := s.log.push event }

/-! ## Finding -/

/-- The session after a search, and the cursor where it led. -/
def found (s : Session δ) (hit : Option Coord) (value : String) : Cursor × Session δ :=
  match hit with
  | some pos =>
    (.ofCoord pos,
      { s with stats := { s.stats with findsHit := s.stats.findsHit + 1 } }.report
        (.found value pos s.sheet))
  | none =>
    (.lost,
      { s with stats := { s.stats with findsMissed := s.stats.findsMissed + 1 } }.report
        (.failed (.cellNotFound s.sheet (shortened value))))

/-- Finds the row where a column holds a value, whatever its letter case. -/
def findInColumn (s : Session δ) (col : Int) (value : String) : Cursor × Session δ :=
  let hit := (Coord.word? col).bind fun col =>
    Document.findInColumn s.doc s.sheet col s.lastRow (.loose value)
  s.found hit value

/-- Finds a cell of the sheet. -/
def find (s : Session δ) (mode : FindMode) (value : String) : Cursor × Session δ :=
  s.found (Document.findInSheet s.doc s.sheet s.lastRow (.ofMode mode value)) value

/-! ## Writing -/

/-- A write at a place without a cell. -/
def skip (s : Session δ) (c : Cursor) (value : String) : Session δ :=
  { s with stats := { s.stats with skippedWrites := s.stats.skippedWrites + 1 } }.report
    (.skipped value s.sheet (.invalidPosition c.row c.col))

/-- The document with a value in a cell. A blank value only asks for the style. -/
def stored (s : Session δ) (pos : Coord) (value : String) : Except DocumentError δ :=
  if Text.isBlankText value then Document.applyFormat s.doc s.sheet pos .styleHint
  else Document.setText s.doc s.sheet pos (escaped value) .styleHint

/-- Writes a value to the cell at a cursor. -/
def write (s : Session δ) (c : Cursor) (value : String) : Session δ :=
  match c.coord? with
  | none => s.skip c value
  | some pos =>
    match s.stored pos value with
    | .ok doc =>
      { s with doc, stats := { s.stats with writes := s.stats.writes + 1 } }.report
        (.added value pos s.sheet)
    | .error e => s.report (.writeFailed pos s.sheet e)

/-- The text of a cell when a line is added to `existing`. -/
def appendedText (existing line : String) : String :=
  if Text.isBlankText existing then escaped line else existing ++ "\n" ++ line

/-- Adds a line to the cell at a cursor. -/
def append (s : Session δ) (c : Cursor) (line : String) : Session δ :=
  match c.coord? with
  | none => s.skip c line
  | some pos =>
    let content := appendedText (Document.text s.doc s.sheet pos) line
    match Document.setText s.doc s.sheet pos content .styleHint with
    | .ok doc =>
      { s with doc, stats := { s.stats with appends := s.stats.appends + 1 } }.report
        (.appended line pos s.sheet)
    | .error e => s.report (.appendFailed pos s.sheet e)

/-- Notes a line that is no command. -/
def noteUnrecognized (s : Session δ) (line : String) : Session δ :=
  { s with stats := { s.stats with unrecognized := s.stats.unrecognized + 1 } }.report
    (.unrecognized (.unrecognizedCommand s.sheet (shortened line)))

end Session

end FillScript
