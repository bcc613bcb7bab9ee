import FillScript.Sheet.Coord
import FillScript.Sheet.Cell

/-!
# Sheets

A sheet is a sparse table of cells. Cells that come to hold neither a value nor a format are not
kept, except where one is touched. Row 0 is the header of a sheet that is used as a table with
titles.
-/

namespace FillScript

/-- A named table of cells. -/
structure Sheet where
  name : String
  cells : Sparse Coord Cell
deriving DecidableEq

/-- The indices from zero to `last`. -/
def indicesUpTo (last : UInt32) : List UInt32 :=
  (List.range (last.toNat + 1)).map UInt32.ofNat

namespace Sheet

/-- A sheet without cells. -/
def blank (name : String) : Sheet :=
  ⟨name, .empty⟩

/-- The stored cell at a position. -/
def cell? (sheet : Sheet) (pos : Coord) : Option Cell :=
  sheet.cells.find? pos

/-- The cell at a position; where none is stored it is blank. -/
def cell (sheet : Sheet) (pos : Coord) : Cell :=
  (sheet.cell? pos).getD .blank

/-- The sheet with a cell put in its place, and kept there unless it is empty. -/
def setCell (sheet : Sheet) (pos : Coord) (cell : Cell) : Sheet :=
  { sheet with cells := sheet.cells.put pos (if cell.isEmpty then none else some cell) }

/-- The sheet with a text as the value at a position; the format there stays. -/
def setText (sheet : Sheet) (pos : Coord) (text : String) : Sheet :=
  sheet.setCell pos { sheet.cell pos with value := .ofText text }

/-- The sheet with a format merged into the one at a position; the value there stays. -/
def applyFormat (sheet : Sheet) (pos : Coord) (request : CellFormat) : Sheet :=
  let cell := sheet.cell pos
  sheet.setCell pos { cell with format := cell.format.merge request }

/-- The sheet with a cell stored at a position even if it is empty. -/
def touch (sheet : Sheet) (pos : Coord) : Sheet :=
  { sheet with cells := sheet.cells.put pos (some (sheet.cell pos)) }

/-- A sheet with titles in row 0. -/
def withHeader (name : String) (titles : List String) : Sheet :=
  titles.zipIdx.foldl
    (fun sheet (title, col) => sheet.setCell ⟨0, UInt32.ofNat col⟩ ⟨.text title, .plain⟩)
    (blank name)

/-- The value at a position. -/
def value (sheet : Sheet) (pos : Coord) : CellValue :=
  (sheet.cell pos).value

/-- The text a reader sees at a position. -/
def text (sheet : Sheet) (pos : Coord) : String :=
  (sheet.value pos).shown

/-- The last row with a value. -/
def lastUsedRow (sheet : Sheet) : Option UInt32 :=
  (sheet.cells.lastKey? fun _ cell => !cell.value.isEmpty).map (·.row)

/-- The last column with a value in a row. -/
def lastUsedCol (sheet : Sheet) (row : UInt32) : Option UInt32 :=
  (sheet.cells.lastKey? fun pos cell => pos.row == row && !cell.value.isEmpty).map (·.col)

/-- The texts of row 0 up to its last value. -/
def header (sheet : Sheet) : List String :=
  match sheet.lastUsedCol 0 with
  | some last => (indicesUpTo last).map fun col => sheet.text ⟨0, col⟩
  | none => []

/-- The number of stored cells. -/
def cellCount (sheet : Sheet) : Nat :=
  sheet.cells.size

/-- Whether no cell is stored. -/
def isEmpty (sheet : Sheet) : Bool :=
  sheet.cells.entries.isEmpty

end Sheet

end FillScript
