import FillScript.Proofs.Sparse
import FillScript.Sheet.Basic

/-!
# Cells and used ranges of a sheet

What a sheet holds at every position after a change, and how far it is used. A change is felt at its
own position only (`cell_setCell`, `cell?_setCell_of_ne`). The last used row and the last used
column of a row are the greatest ones with a value (`isLast_lastUsedRow`, `isLast_lastUsedCol`), so
that two sheets whose values agree have the same ranges, and the header depends on row 0 alone
(`header_congr`).
-/

namespace FillScript

/-! ## The greatest number with a property -/

/-- The greatest number with a property, if there is one at all. -/
def IsLast (P : UInt32 → Prop) : Option UInt32 → Prop
  | some last => P last ∧ ∀ n, P n → n ≤ last
  | none => ∀ n, ¬P n

namespace IsLast

/-- There is only one greatest number. -/
theorem unique {P : UInt32 → Prop} {first second : Option UInt32} (hfirst : IsLast P first)
    (hsecond : IsLast P second) : first = second := by
  cases first with
  | none =>
    cases second with
    | none => rfl
    | some m => exact absurd hsecond.1 (hfirst m)
  | some n =>
    cases second with
    | none => exact absurd hfirst.1 (hsecond n)
    | some m =>
      have hnm : n ≤ m := hsecond.2 n hfirst.1
      have hmn : m ≤ n := hfirst.2 m hsecond.1
      exact congrArg some (UInt32.le_antisymm hnm hmn)

/-- Properties that the same numbers have share the greatest number. -/
theorem congr {P Q : UInt32 → Prop} {last : Option UInt32} (hlast : IsLast P last)
    (hiff : ∀ n, P n ↔ Q n) : IsLast Q last := by
  have : P = Q := funext fun n => propext (hiff n)
  rwa [← this]

theorem insert_none {P : UInt32 → Prop} (hlast : IsLast P none) (new : UInt32) :
    IsLast (fun n => P n ∨ n = new) (some new) := by
  refine ⟨.inr rfl, fun n hn => ?_⟩
  rcases hn with hold | hnew
  · exact absurd hold (hlast n)
  · exact UInt32.le_of_eq hnew

/-- One more number becomes the greatest, or leaves a greater one. -/
theorem insert_some {P : UInt32 → Prop} {last : UInt32} (hlast : IsLast P (some last))
    (new : UInt32) : IsLast (fun n => P n ∨ n = new) (some (max last new)) := by
  by_cases hle : last ≤ new
  · rw [show max last new = new from if_pos hle]
    refine ⟨.inr rfl, fun n hn => ?_⟩
    rcases hn with hold | hnew
    · exact UInt32.le_trans (hlast.2 n hold) hle
    · exact UInt32.le_of_eq hnew
  · rw [show max last new = last from if_neg hle]
    refine ⟨.inl hlast.1, fun n hn => ?_⟩
    rcases hn with hold | hnew
    · exact hlast.2 n hold
    · rw [hnew]
      exact UInt32.le_of_lt (UInt32.not_le.1 hle)

/-- A property that holds of more numbers, but of none beyond the greatest, keeps the greatest
number. -/
theorem mono {P Q : UInt32 → Prop} {last : Option UInt32} (hlast : IsLast P last)
    (hmore : ∀ n, P n → Q n) (hbound : ∀ n, Q n → ∃ m, P m ∧ n ≤ m) : IsLast Q last := by
  cases last with
  | none =>
    intro n hn
    obtain ⟨m, hm, -⟩ := hbound n hn
    exact hlast m hm
  | some last =>
    refine ⟨hmore last hlast.1, fun n hn => ?_⟩
    obtain ⟨m, hm, hle⟩ := hbound n hn
    exact UInt32.le_trans hle (hlast.2 m hm)

end IsLast

/-! ## Texts as values -/

/-- A stored text shows as itself. -/
theorem CellValue.shown_ofText (s : String) : (ofText s).shown = s := by
  unfold ofText
  by_cases hempty : s.isEmpty = true
  · rw [if_pos hempty]
    exact (String.isEmpty_iff.1 hempty).symm
  · rw [if_neg hempty]
    rfl

/-! ## The order of positions -/

namespace Coord

theorem rank_eq (pos : Coord) : rank pos = pos.row.toNat * UInt32.size + pos.col.toNat := rfl

/-- A position of higher rank stands in no earlier row. -/
theorem row_le_of_rank_le {a b : Coord} (hrank : rank a ≤ rank b) : a.row ≤ b.row := by
  have hb := b.col.toNat_lt
  rw [rank_eq, rank_eq] at hrank
  simp only [UInt32.size] at hrank
  rw [UInt32.le_iff_toNat_le]
  omega

/-- In a row, a position of higher rank stands in no earlier column. -/
theorem col_le_of_rank_le {a b : Coord} (hrow : a.row = b.row) (hrank : rank a ≤ rank b) :
    a.col ≤ b.col := by
  rw [rank_eq, rank_eq, hrow] at hrank
  rw [UInt32.le_iff_toNat_le]
  omega

end Coord

namespace Sheet

/-! ## Cells after a change -/

@[simp]
theorem name_setCell (sheet : Sheet) (pos : Coord) (cell : Cell) :
    (sheet.setCell pos cell).name = sheet.name := rfl

@[simp]
theorem name_setText (sheet : Sheet) (pos : Coord) (text : String) :
    (sheet.setText pos text).name = sheet.name := rfl

@[simp]
theorem name_applyFormat (sheet : Sheet) (pos : Coord) (request : CellFormat) :
    (sheet.applyFormat pos request).name = sheet.name := rfl

theorem cell?_setCell_of_ne {sheet : Sheet} {pos other : Coord} {cell : Cell}
    (hne : other ≠ pos) : (sheet.setCell pos cell).cell? other = sheet.cell? other :=
  Sparse.find?_put_of_ne hne

theorem cell?_setText_of_ne {sheet : Sheet} {pos other : Coord} {text : String}
    (hne : other ≠ pos) : (sheet.setText pos text).cell? other = sheet.cell? other :=
  cell?_setCell_of_ne hne

/-- The stored cells after one was put in its place: an empty one is not kept. -/
theorem cell?_setCell (sheet : Sheet) (pos other : Coord) (cell : Cell) :
    (sheet.setCell pos cell).cell? other =
      if other = pos then (if cell.isEmpty then none else some cell) else sheet.cell? other := by
  by_cases heq : other = pos
  · subst heq
    rw [if_pos rfl]
    exact Sparse.find?_put_self _ _ _
  · rw [if_neg heq, cell?_setCell_of_ne heq]

/-- The cells after one was put in its place: an empty one is not kept, but reads as blank. -/
theorem cell_setCell (sheet : Sheet) (pos other : Coord) (cell : Cell) :
    (sheet.setCell pos cell).cell other = if other = pos then cell else sheet.cell other := by
  by_cases heq : other = pos
  · subst heq
    rw [if_pos rfl]
    simp only [Sheet.cell, cell?, setCell, Sparse.find?_put_self]
    by_cases hempty : cell.isEmpty = true
    · rw [if_pos hempty]
      exact (Cell.isEmpty_iff.1 hempty).symm
    · rw [if_neg hempty]
      rfl
  · rw [if_neg heq, Sheet.cell, cell?_setCell_of_ne heq, Sheet.cell]

theorem cell_setText (sheet : Sheet) (pos other : Coord) (text : String) :
    (sheet.setText pos text).cell other =
      if other = pos then ⟨.ofText text, (sheet.cell pos).format⟩ else sheet.cell other :=
  cell_setCell sheet pos other _

theorem cell_applyFormat (sheet : Sheet) (pos other : Coord) (request : CellFormat) :
    (sheet.applyFormat pos request).cell other =
      if other = pos then ⟨(sheet.cell pos).value, (sheet.cell pos).format.merge request⟩
      else sheet.cell other :=
  cell_setCell sheet pos other _

/-- A format leaves the values as they are. -/
theorem value_applyFormat (sheet : Sheet) (pos other : Coord) (request : CellFormat) :
    (sheet.applyFormat pos request).value other = sheet.value other := by
  rw [value, cell_applyFormat]
  by_cases heq : other = pos
  · rw [if_pos heq, heq]
    rfl
  · rw [if_neg heq]
    rfl

/-- The cells after a text was stored and a format asked for at one position. -/
theorem cell_applyFormat_setText (sheet : Sheet) (pos other : Coord) (text : String)
    (request : CellFormat) :
    ((sheet.setText pos text).applyFormat pos request).cell other =
      if other = pos then ⟨.ofText text, (sheet.cell pos).format.merge request⟩
      else sheet.cell other := by
  rw [cell_applyFormat, cell_setText, cell_setText, if_pos rfl]
  by_cases heq : other = pos
  · rw [if_pos heq, if_pos heq]
  · rw [if_neg heq, if_neg heq, if_neg heq]

/-! ## Used ranges -/

/-- Whether there is a value at a position. -/
def Uses (sheet : Sheet) (pos : Coord) : Prop :=
  (sheet.value pos).isEmpty = false

theorem uses_iff_stored {sheet : Sheet} {pos : Coord} :
    sheet.Uses pos ↔ ∃ cell, sheet.cells.find? pos = some cell ∧ (!cell.value.isEmpty) = true := by
  simp only [Uses, value, Sheet.cell, cell?, Bool.not_eq_true']
  cases hfind : sheet.cells.find? pos with
  | none => simp [Cell.blank, CellValue.isEmpty]
  | some cell => simp

/-- Where there is a text there is a value. -/
theorem uses_of_text_ne_empty {sheet : Sheet} {pos : Coord} (htext : sheet.text pos ≠ "") :
    sheet.Uses pos := by
  rw [Uses]
  cases hvalue : sheet.value pos with
  | empty =>
    rw [text, hvalue] at htext
    exact absurd rfl htext
  | number n => rfl
  | text s => rfl
  | boolean b => rfl

/-- The last used row is the greatest row with a value. -/
theorem isLast_lastUsedRow (sheet : Sheet) :
    IsLast (fun row => ∃ col, sheet.Uses ⟨row, col⟩) sheet.lastUsedRow := by
  unfold lastUsedRow
  cases hlast : sheet.cells.lastKey? fun _ cell => !cell.value.isEmpty with
  | none =>
    intro row ⟨col, huses⟩
    obtain ⟨cell, hfind, hvalue⟩ := uses_iff_stored.1 huses
    have := Sparse.lastKey?_eq_none_iff.1 hlast _ cell hfind
    rw [hvalue] at this
    contradiction
  | some pos =>
    obtain ⟨hstored, hmax⟩ := Sparse.lastKey?_eq_some_iff.1 hlast
    refine ⟨⟨pos.col, uses_iff_stored.2 hstored⟩, ?_⟩
    intro row ⟨col, huses⟩
    obtain ⟨cell, hfind, hvalue⟩ := uses_iff_stored.1 huses
    exact Coord.row_le_of_rank_le (hmax _ cell hfind hvalue)

/-- The last used column of a row is the greatest column with a value there. -/
theorem isLast_lastUsedCol (sheet : Sheet) (row : UInt32) :
    IsLast (fun col => sheet.Uses ⟨row, col⟩) (sheet.lastUsedCol row) := by
  unfold lastUsedCol
  cases hlast : sheet.cells.lastKey? fun pos cell => pos.row == row && !cell.value.isEmpty with
  | none =>
    intro col huses
    obtain ⟨cell, hfind, hvalue⟩ := uses_iff_stored.1 huses
    have := Sparse.lastKey?_eq_none_iff.1 hlast _ cell hfind
    rw [hvalue] at this
    simp at this
  | some pos =>
    obtain ⟨⟨cell, hfind, hp⟩, hmax⟩ := Sparse.lastKey?_eq_some_iff.1 hlast
    simp only [Bool.and_eq_true, beq_iff_eq] at hp
    obtain ⟨rfl, hvalue⟩ := hp
    refine ⟨uses_iff_stored.2 ⟨cell, hfind, hvalue⟩, ?_⟩
    intro col huses
    obtain ⟨cell', hfind', hvalue'⟩ := uses_iff_stored.1 huses
    have hrank : rank (⟨pos.row, col⟩ : Coord) ≤ rank pos := by
      refine hmax _ cell' hfind' ?_
      simp only [beq_self_eq_true, hvalue', Bool.and_self]
    exact Coord.col_le_of_rank_le (a := ⟨pos.row, col⟩) rfl hrank

/-! ## The header -/

/-- Sheets with the same values in row 0 have the same header. -/
theorem header_congr {sheet other : Sheet}
    (hrow : ∀ col, sheet.value ⟨0, col⟩ = other.value ⟨0, col⟩) : sheet.header = other.header := by
  have hlast : sheet.lastUsedCol 0 = other.lastUsedCol 0 := by
    refine (sheet.isLast_lastUsedCol 0).unique ((other.isLast_lastUsedCol 0).congr fun col => ?_)
    rw [Uses, Uses, hrow]
  have htext : (fun col => sheet.text ⟨0, col⟩) = fun col => other.text ⟨0, col⟩ :=
    funext fun col => congrArg CellValue.shown (hrow col)
  rw [header, header, hlast, htext]

end Sheet

end FillScript
