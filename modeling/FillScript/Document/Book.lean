import FillScript.Sheet.Workbook

/-!
# Spreadsheet books

A book is a document of the other kind: its cells are read and written as texts, whatever they were
entered as. Opening the file of a book leaves out blank cells and sheets whose name is taken, so
that the blank cells that the file does not keep are not missed (`Book.opened_written`). An open
book keeps a table of the used range of each sheet, by name, which is scanned when the book is
opened and patched by every write.
-/

namespace FillScript

/-! ## Books -/

namespace CellValue

/-- The text that a book shows for a value: numbers keep the sign of zero. -/
def bookText : CellValue → String
  | number value => value.plain.text
  | value => value.shown

end CellValue

/-- A named table of cells. -/
structure BookSheet where
  name : String
  cells : Sparse Coord Cell
deriving DecidableEq

namespace BookSheet

/-- The cell at a position; where none is stored it is blank. -/
def cell (sheet : BookSheet) (pos : Coord) : Cell :=
  (sheet.cells.find? pos).getD .blank

/-- The sheet with a cell put in its place. -/
def setCell (sheet : BookSheet) (pos : Coord) (cell : Cell) : BookSheet :=
  { sheet with cells := sheet.cells.put pos (some cell) }

/-- The text at a position. -/
def text (sheet : BookSheet) (pos : Coord) : String :=
  (sheet.cell pos).value.bookText

/-- The sheet with a text at a position, which may be empty; the format there stays. -/
def setText (sheet : BookSheet) (pos : Coord) (text : String) : BookSheet :=
  sheet.setCell pos { sheet.cell pos with value := .text text }

/-- The sheet with a format merged into the one at a position; the text there stays. -/
def applyFormat (sheet : BookSheet) (pos : Coord) (request : CellFormat) : BookSheet :=
  let cell := sheet.cell pos
  sheet.setCell pos { cell with format := cell.format.merge request }

/-- Whether a cell is used on both sides of a position in its row. -/
def isInside (sheet : BookSheet) (pos : Coord) : Bool :=
  (sheet.cells.entries.any fun (other, _) => other.row == pos.row && other.col < pos.col) &&
    sheet.cells.entries.any fun (other, _) => other.row == pos.row && pos.col < other.col

/-- The sheet as a file keeps it: of its blank cells only those that tell where a row begins or
ends. -/
def written (sheet : BookSheet) : BookSheet :=
  { sheet with cells := sheet.cells.filter fun pos cell => !(cell.isEmpty && sheet.isInside pos) }

/-- The sheet without its blank cells. -/
def withoutBlanks (sheet : BookSheet) : BookSheet :=
  { sheet with cells := sheet.cells.filter fun _ cell => !cell.isEmpty }

end BookSheet

/-- A list of sheets. -/
structure Book where
  sheets : List BookSheet
deriving DecidableEq, Inhabited

namespace Book

/-- The sheet that a name stands for: the first that has it. -/
def sheet? (book : Book) (name : String) : Option BookSheet :=
  book.sheets.find? (·.name == name)

/-- The book with the sheet that a name stands for changed by `f`. -/
def modifySheet (book : Book) (name : String) (f : BookSheet → BookSheet) : Book :=
  ⟨modifyFirst (·.name == name) f book.sheets⟩

/-- The book as a file keeps it. -/
def written (book : Book) : Book :=
  ⟨book.sheets.map BookSheet.written⟩

/-- The first sheet of each name. -/
def firstOfEachName : List BookSheet → List BookSheet
  | [] => []
  | sheet :: rest => sheet :: (firstOfEachName rest).filter (·.name != sheet.name)

/-- The book that is read from a file with this one. -/
def opened (book : Book) : Book :=
  ⟨(firstOfEachName book.sheets).map BookSheet.withoutBlanks⟩

theorem withoutBlanks_written (sheet : BookSheet) :
    sheet.written.withoutBlanks = sheet.withoutBlanks := by
  have hkept : (fun entry : Coord × Cell => !entry.2.isEmpty &&
      !(entry.2.isEmpty && sheet.isInside entry.1)) = fun entry => !entry.2.isEmpty := by
    funext entry
    cases entry.2.isEmpty <;> rfl
  simp only [BookSheet.withoutBlanks, BookSheet.written, Sparse.filter, List.filter_filter, hkept]

theorem firstOfEachName_map {f : BookSheet → BookSheet}
    (hname : ∀ sheet, (f sheet).name = sheet.name) (sheets : List BookSheet) :
    firstOfEachName (sheets.map f) = (firstOfEachName sheets).map f := by
  induction sheets with
  | nil => rfl
  | cons sheet rest ih =>
    simp only [List.map_cons, firstOfEachName, ih, List.filter_map]
    simp [Function.comp_def, hname]

/-- What a file leaves out of a book is not missed when the file is opened. -/
theorem opened_written (book : Book) : book.written.opened = book.opened := by
  have hname (sheet : BookSheet) : sheet.written.name = sheet.name := rfl
  simp only [opened, written, firstOfEachName_map hname, List.map_map]
  congr 2
  exact funext withoutBlanks_written

end Book

/-! ## Used ranges -/

/-- The last used column of every used row. -/
abbrev RowBounds := Sparse UInt32 UInt32

namespace RowBounds

/-- The bounds with a used position added. -/
def note (bounds : RowBounds) (pos : Coord) : RowBounds :=
  bounds.put pos.row <|
    match bounds.find? pos.row with
    | some last => some (max last pos.col)
    | none => some pos.col

/-- The bounds of the cells that have a text. -/
def scan (cells : Sparse Coord Cell) : RowBounds :=
  cells.entries.foldl
    (fun bounds (pos, cell) => if cell.value.bookText.isEmpty then bounds else note bounds pos)
    .empty

/-- The last used row. -/
def lastRow (bounds : RowBounds) : Option UInt32 :=
  bounds.lastKey? fun _ _ => true

end RowBounds

/-- Bounds by sheet name. -/
abbrev BoundsTable := List (String × RowBounds)

namespace BoundsTable

/-- The bounds under a name. -/
def find? (table : BoundsTable) (name : String) : Option RowBounds :=
  (List.find? (·.1 == name) table).map (·.2)

/-- The table with other bounds under a name. -/
def set (name : String) (bounds : RowBounds) : BoundsTable → BoundsTable
  | [] => [(name, bounds)]
  | (n, old) :: rest => if n == name then (n, bounds) :: rest else (n, old) :: set name bounds rest

/-- The bounds of all sheets; of sheets with one name the last counts. -/
def scan (sheets : List BookSheet) : BoundsTable :=
  sheets.foldl (fun table sheet => set sheet.name (RowBounds.scan sheet.cells) table) []

end BoundsTable

/-! ## Open books -/

/-- A book with the used ranges of its sheets. -/
structure OpenBook where
  book : Book
  bounds : BoundsTable
deriving DecidableEq

namespace OpenBook

/-- A book with its used ranges scanned. -/
def ofBook (book : Book) : OpenBook :=
  ⟨book, BoundsTable.scan book.sheets⟩

/-- The text at a position. -/
def text (doc : OpenBook) (name : String) (pos : Coord) : String :=
  match doc.book.sheet? name with
  | some sheet => sheet.text pos
  | none => ""

/-- The document after a text is written to a cell of a sheet that is there. A text can only widen
the used range of its row; an empty one can narrow it, so the sheet is scanned anew. -/
def write (doc : OpenBook) (name : String) (pos : Coord) (text : String) (request : CellFormat) :
    OpenBook :=
  let book := doc.book.modifySheet name fun sheet =>
    (sheet.setText pos text).applyFormat pos request
  let bounds :=
    if text.isEmpty then
      match book.sheet? name with
      | some sheet => RowBounds.scan sheet.cells
      | none => .empty
    else RowBounds.note ((BoundsTable.find? doc.bounds name).getD .empty) pos
  ⟨book, BoundsTable.set name bounds doc.bounds⟩

/-- The document after a format is merged into that of a cell. -/
def format (doc : OpenBook) (name : String) (pos : Coord) (request : CellFormat) : OpenBook :=
  { doc with book := doc.book.modifySheet name (·.applyFormat pos request) }

end OpenBook

end FillScript
