import FillScript.Sparse
import FillScript.Number.Digits
import FillScript.Sheet.Label
import FillScript.Text.Blank

/-!
# Cell positions

A cell is found by its row and its column, both counted from zero. People write the column as
letters and the row counted from one, as in `B3`.
-/

namespace FillScript

/-- The position of a cell. -/
structure Coord where
  row : UInt32
  col : UInt32
deriving DecidableEq, Repr

namespace Coord

/-- Positions are ordered by row, then by column. -/
instance : Ranked Coord where
  rank c := c.row.toNat * UInt32.size + c.col.toNat
  rank_injective := by
    intro a b hrank
    have ha := a.col.toNat_lt
    have hb := b.col.toNat_lt
    simp only [UInt32.size] at hrank
    have hrow : a.row.toNat = b.row.toNat := by omega
    have hcol : a.col.toNat = b.col.toNat := by omega
    cases a
    cases b
    simp only [mk.injEq]
    exact ⟨UInt32.toNat_inj.1 hrow, UInt32.toNat_inj.1 hcol⟩

/-- The reference of a position: column letters and the row counted from one. -/
def label (c : Coord) : String :=
  Label.ofIndex c.col ++ Digits.text (c.row.toNat + 1)

/-- The position that a reference names. Blanks around it are skipped, letters may be small, the row
may have leading zeros. -/
def ofLabel? (reference : String) : Option Coord := do
  let (letters, digits) := (Text.trimmed reference.toList).span fun c => !Digit.isDigit c
  let col ← Label.index? letters
  let row ← Digits.readWord? digits
  if row = 0 then none else some ⟨row - 1, col⟩

/-- An index as a 32-bit number, if it is one. -/
def word? (n : Int) : Option UInt32 :=
  if 0 ≤ n ∧ n < UInt32.size then some (UInt32.ofNat n.toNat) else none

/-- The position with the given indices, if there is a cell there. -/
def ofInts? (row col : Int) : Option Coord := do
  let row ← word? row
  let col ← word? col
  return ⟨row, col⟩

end Coord

/-- Rows are ordered by number. -/
instance : Ranked UInt32 where
  rank := UInt32.toNat
  rank_injective := UInt32.toNat_inj.1

end FillScript
