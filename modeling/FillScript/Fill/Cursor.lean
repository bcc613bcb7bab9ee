import FillScript.Script.Command
import FillScript.Sheet.Coord
import FillScript.Number.Numeral

/-!
# The cursor

The place in a sheet that a script is at. A cursor can stand where no cell is: before the first row
or column, where it is lost until a find places it again, or beyond the last ones, from where it can
come back.
-/

namespace FillScript

/-- A place in a sheet, whether there is a cell or not. Rows and columns have no bounds here; where
they are signed words of 64 bits they differ from these beyond `2 ^ 63` only. -/
structure Cursor where
  row : Int
  col : Int
deriving DecidableEq, Repr

namespace Cursor

/-- The cursor of a script that has found nothing. -/
def lost : Cursor :=
  ⟨-1, -1⟩

/-- The cursor at a cell. -/
def ofCoord (pos : Coord) : Cursor :=
  ⟨pos.row.toNat, pos.col.toNat⟩

/-- Whether the cursor stands neither above nor to the left of the sheet. -/
def isValid (c : Cursor) : Bool :=
  0 ≤ c.row && 0 ≤ c.col

/-- The cell at the cursor, if there is one. -/
def coord? (c : Cursor) : Option Coord :=
  Coord.ofInts? c.row c.col

/-- The cursor in the same row and another column. -/
def withCol (c : Cursor) (col : Int) : Cursor :=
  ⟨c.row, col⟩

/-- The cursor one cell further. A cursor that is not valid is lost. -/
def step (c : Cursor) (direction : Direction) : Cursor :=
  if c.isValid then ⟨c.row + direction.delta.1, c.col + direction.delta.2⟩ else lost

/-- The reference of the cell at the cursor, or else its row and column. -/
def text (c : Cursor) : String :=
  match c.coord? with
  | some pos => pos.label
  | none => "(" ++ (Numeral.ofInt c.row).text ++ ", " ++ (Numeral.ofInt c.col).text ++ ")"

end Cursor

end FillScript
