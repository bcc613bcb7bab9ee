import FillScript.Proofs.Sheet.Cells
import Mathlib.Logic.Equiv.Defs

/-!
# Sheets with their columns in another order

A permutation of the column indices moves the cells of a sheet (`Sheet.movedBy`). What a sheet is
asked about rows does not depend on the order of its columns (`Sheet.Moved.lastUsedRow`). A title
moves with its column: a title that is not empty stands in the header exactly where it is the text
of row 0 (`Sheet.getElem?_header`), however far the header reaches.
-/

namespace FillScript

/-! ## Moved positions -/

namespace Coord

/-- The position in the same row and the column that `p` moves its column to. -/
def movedBy (p : Equiv.Perm UInt32) (pos : Coord) : Coord :=
  ⟨pos.row, p pos.col⟩

@[simp]
theorem movedBy_refl (pos : Coord) : pos.movedBy (.refl _) = pos := rfl

theorem movedBy_injective (p : Equiv.Perm UInt32) {a b : Coord}
    (hsame : a.movedBy p = b.movedBy p) : a = b := by
  obtain ⟨row, col⟩ := a
  obtain ⟨row', col'⟩ := b
  simp only [movedBy, mk.injEq] at hsame ⊢
  exact ⟨hsame.1, p.injective hsame.2⟩

/-- Every position is one that another was moved to. -/
theorem exists_movedBy (p : Equiv.Perm UInt32) (pos : Coord) :
    ∃ origin : Coord, pos = origin.movedBy p := by
  refine ⟨⟨pos.row, p.symm pos.col⟩, ?_⟩
  rw [movedBy, Equiv.apply_symm_apply]

end Coord

/-! ## Moved cells -/

namespace Sheet

/-- The sheet with every stored cell moved to the column that `p` moves its column to. -/
def movedBy (p : Equiv.Perm UInt32) (sheet : Sheet) : Sheet where
  name := sheet.name
  cells := .ofList (sheet.cells.entries.map fun entry => (entry.1.movedBy p, entry.2))

/-- The cells of one sheet are those of another in moved columns. -/
def Moved (p : Equiv.Perm UInt32) (sheet other : Sheet) : Prop :=
  ∀ pos, other.cell? (pos.movedBy p) = sheet.cell? pos

theorem moved_movedBy (p : Equiv.Perm UInt32) (sheet : Sheet) :
    Moved p sheet (sheet.movedBy p) := by
  intro pos
  have hdistinct : ((sheet.cells.entries.map fun entry =>
      (entry.1.movedBy p, entry.2)).map (·.1)).Nodup := by
    rw [List.map_map]
    have hkeys := sheet.cells.nodup_keys
    rw [List.Nodup, List.pairwise_map] at hkeys ⊢
    exact hkeys.imp fun hne hsame => hne (Coord.movedBy_injective p hsame)
  refine Option.ext fun cell => ?_
  rw [cell?, cell?, movedBy, Sparse.find?_ofList_eq_some_iff hdistinct,
    ← Sparse.mem_entries_iff, List.mem_map]
  constructor
  · intro hentry
    obtain ⟨⟨key, value⟩, hmem, hsame⟩ := hentry
    obtain ⟨hkey, rfl⟩ := Prod.mk.inj hsame
    obtain rfl := Coord.movedBy_injective p hkey
    exact hmem
  · intro hmem
    exact ⟨(pos, cell), hmem, rfl⟩

namespace Moved

variable {p : Equiv.Perm UInt32} {sheet other : Sheet} (h : Moved p sheet other)
include h

/-- There is only one sheet of its name with the cells of another in moved columns. -/
theorem eq_movedBy (hname : other.name = sheet.name) : other = sheet.movedBy p := by
  have hcells : other.cells = (sheet.movedBy p).cells := by
    ext1 pos
    obtain ⟨origin, rfl⟩ := Coord.exists_movedBy p pos
    exact (h origin).trans (moved_movedBy p sheet origin).symm
  obtain ⟨name, cells⟩ := other
  obtain rfl : name = sheet.name := hname
  obtain rfl : cells = (sheet.movedBy p).cells := hcells
  rfl

theorem cell (pos : Coord) : other.cell (pos.movedBy p) = sheet.cell pos := by
  rw [Sheet.cell, Sheet.cell, h pos]

theorem value (pos : Coord) : other.value (pos.movedBy p) = sheet.value pos :=
  congrArg Cell.value (h.cell pos)

theorem text (pos : Coord) : other.text (pos.movedBy p) = sheet.text pos :=
  congrArg CellValue.shown (h.value pos)

theorem uses_iff (pos : Coord) : other.Uses (pos.movedBy p) ↔ sheet.Uses pos := by
  rw [Uses, Uses, h.value]

/-- The rows are used as before. -/
theorem lastUsedRow : other.lastUsedRow = sheet.lastUsedRow := by
  refine other.isLast_lastUsedRow.unique (sheet.isLast_lastUsedRow.congr fun row => ?_)
  constructor
  · intro ⟨col, huses⟩
    exact ⟨p col, (h.uses_iff ⟨row, col⟩).2 huses⟩
  · intro ⟨col, huses⟩
    obtain ⟨origin, horigin⟩ := Coord.exists_movedBy p ⟨row, col⟩
    rw [horigin, h.uses_iff] at huses
    obtain rfl : row = origin.row := congrArg Coord.row horigin
    exact ⟨origin.col, huses⟩

end Moved

/-- Sheets with the same cells, whatever their names. -/
theorem moved_refl_iff {sheet other : Sheet} :
    Moved (.refl _) sheet other ↔ other.cells = sheet.cells := by
  refine ⟨fun h => Sparse.ext h, fun h pos => ?_⟩
  show other.cell? pos = sheet.cell? pos
  rw [cell?, cell?, h]

/-! ## Titles -/

/-- The indices up to the last one, each at its own place. -/
theorem getElem?_indicesUpTo (last index : UInt32) :
    (indicesUpTo last)[index.toNat]? = if index ≤ last then some index else none := by
  rw [indicesUpTo, List.getElem?_map]
  by_cases hle : index ≤ last
  · have hlt : index.toNat < last.toNat + 1 := by
      have := UInt32.le_iff_toNat_le.1 hle
      omega
    rw [if_pos hle, List.getElem?_range hlt, Option.map_some, UInt32.ofNat_toNat]
  · have hlen : (List.range (last.toNat + 1)).length ≤ index.toNat := by
      rw [UInt32.le_iff_toNat_le] at hle
      rw [List.length_range]
      omega
    rw [if_neg hle, List.getElem?_eq_none hlen, Option.map_none]

/-- A title that is not empty stands in the header where it is the text of row 0. -/
theorem getElem?_header_eq_some_iff {sheet : Sheet} {title : String} (htitle : title ≠ "")
    (col : UInt32) : sheet.header[col.toNat]? = some title ↔ sheet.text ⟨0, col⟩ = title := by
  have huses (htext : sheet.text ⟨0, col⟩ = title) : sheet.Uses ⟨0, col⟩ :=
    uses_of_text_ne_empty (htext ▸ htitle)
  have hlast := sheet.isLast_lastUsedCol 0
  unfold header
  cases hcol : sheet.lastUsedCol 0 with
  | none =>
    rw [hcol] at hlast
    refine ⟨fun h => by simp at h, fun htext => ?_⟩
    exact absurd (huses htext) (hlast col)
  | some last =>
    rw [hcol] at hlast
    simp only [List.getElem?_map, getElem?_indicesUpTo]
    by_cases hle : col ≤ last
    · rw [if_pos hle, Option.map_some, Option.some.injEq]
    · rw [if_neg hle, Option.map_none]
      refine ⟨fun h => by simp at h, fun htext => ?_⟩
      exact absurd (hlast.2 col (huses htext)) hle

/-- No two columns have the same title, apart from those that have none. -/
def DistinctTitles (sheet : Sheet) : Prop :=
  ∀ ⦃a b : UInt32⦄, sheet.text ⟨0, a⟩ = sheet.text ⟨0, b⟩ → sheet.text ⟨0, a⟩ ≠ "" → a = b

theorem Moved.distinctTitles {p : Equiv.Perm UInt32} {sheet other : Sheet} (h : Moved p sheet other)
    (hdistinct : sheet.DistinctTitles) : other.DistinctTitles := by
  intro a b hsame hne
  obtain ⟨a, rfl⟩ := p.surjective a
  obtain ⟨b, rfl⟩ := p.surjective b
  have ha : other.text ⟨0, p a⟩ = sheet.text ⟨0, a⟩ := h.text ⟨0, a⟩
  have hb : other.text ⟨0, p b⟩ = sheet.text ⟨0, b⟩ := h.text ⟨0, b⟩
  rw [ha, hb] at hsame
  rw [ha] at hne
  rw [hdistinct hsame hne]

end Sheet

end FillScript
