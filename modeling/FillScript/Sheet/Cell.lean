import FillScript.Number.Writing
import FillScript.Sheet.Format

/-!
# Cells

A cell holds a value and a format. What a reader of the sheet sees of a value is its text.
-/

namespace FillScript

/-- What a cell holds. Numbers are finite, as those that are read from a file are. Infinite ones and
those that are no number, which a workbook in memory could hold as well, are left out. -/
inductive CellValue where
  | empty
  | number (value : Binary64)
  | text (value : String)
  | boolean (value : Bool)
deriving DecidableEq

namespace CellValue

instance : Inhabited CellValue := ⟨empty⟩

/-- Whether there is no value. An empty text is a value. -/
def isEmpty : CellValue → Bool
  | empty => true
  | _ => false

/-- The text a reader of the sheet sees. -/
def shown : CellValue → String
  | empty => ""
  | number value => value.shown.text
  | text value => value
  | boolean true => "TRUE"
  | boolean false => "FALSE"

/-- The value that a text is stored as: the empty text leaves no value. -/
def ofText (s : String) : CellValue :=
  if s.isEmpty then empty else text s

end CellValue

/-- A value with its format. -/
structure Cell where
  value : CellValue
  format : CellFormat
deriving DecidableEq

namespace Cell

/-- A cell that nobody wrote to. -/
def blank : Cell :=
  ⟨.empty, .plain⟩

instance : Inhabited Cell := ⟨blank⟩

/-- Whether a cell has neither a value nor a format. -/
def isEmpty (cell : Cell) : Bool :=
  cell.value.isEmpty && cell.format == .plain

theorem isEmpty_iff {cell : Cell} : cell.isEmpty = true ↔ cell = blank := by
  obtain ⟨value, format⟩ := cell
  cases value <;> simp [isEmpty, CellValue.isEmpty, blank]

end Cell

end FillScript
