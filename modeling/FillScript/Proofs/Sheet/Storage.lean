import FillScript.Proofs.Sheet.Cells
import Mathlib.Data.List.Induction
import Mathlib.Data.Set.Card

/-!
# Sheets as functions of positions

A sheet is asked for the cell at a position and changed at one position at a time. What it shows at
a position depends on the edits there alone, as if every position had a cell of its own, and it
stores the cells that are not empty, and of the empty ones those that were touched last
(`Sheet.cell_editedBy_blank`). So a sheet in which no cell was touched has as many entries as cells
with a value or a format (`Sheet.editedBy_blank`).
-/

namespace FillScript

theorem Cell.eq_blank_iff {cell : Cell} :
    cell = .blank ↔ cell.value = .empty ∧ cell.format = .plain := by
  obtain ⟨value, format⟩ := cell
  rw [blank, mk.injEq]

/-- A table has as many entries as keys at which it stores something. -/
theorem Sparse.encard_stored {κ α : Type} [Ranked κ] [DecidableEq κ] (t : Sparse κ α) :
    {key | (t.find? key).isSome = true}.encard = t.size := by
  have hkeys : {key | (t.find? key).isSome = true} = ↑(t.entries.map (·.1)).toFinset := by
    ext key
    rw [Set.mem_ofPred_eq, List.coe_toFinset, Set.mem_ofPred_eq, List.mem_map,
      Option.isSome_iff_exists]
    constructor
    · rintro ⟨value, hfind⟩
      exact ⟨(key, value), mem_entries_iff.2 hfind, rfl⟩
    · rintro ⟨⟨key, value⟩, hentry, rfl⟩
      exact ⟨value, mem_entries_iff.1 hentry⟩
  rw [hkeys, Set.encard_coe_eq_coe_finsetCard, List.toFinset_card_of_nodup t.nodup_keys,
    List.length_map, size]

/-! ## Edits -/

/-- What can be done to a cell. -/
inductive CellUpdate where
  | set (cell : Cell)
  | text (text : String)
  | format (request : CellFormat)
  /-- The cell is asked for as one that can be changed, and is left as it is. -/
  | touch
deriving DecidableEq

namespace CellUpdate

/-- What an edit makes of a cell. An empty text leaves no value. -/
def apply : CellUpdate → Cell → Cell
  | set new, _ => new
  | text s, cell => ⟨if s = "" then .empty else .text s, cell.format⟩
  | format request, cell => ⟨cell.value, cell.format.merge request⟩
  | touch, cell => cell

/-- What edits make of a cell, one after the other. -/
def applyAll (edits : List CellUpdate) (cell : Cell) : Cell :=
  edits.foldl (fun cell edit => edit.apply cell) cell

end CellUpdate

/-- Among edits at positions those at one position. -/
def editsAt (pos : Coord) (edits : List (Coord × CellUpdate)) : List CellUpdate :=
  (edits.filter fun edit => edit.1 = pos).map (·.2)

namespace Sheet

/-- The sheet after an edit of the cell at a position. -/
def edited (sheet : Sheet) : Coord × CellUpdate → Sheet
  | (pos, .set cell) => sheet.setCell pos cell
  | (pos, .text s) => sheet.setText pos s
  | (pos, .format request) => sheet.applyFormat pos request
  | (pos, .touch) => sheet.touch pos

/-- The sheet after edits, one after the other. -/
def editedBy (sheet : Sheet) (edits : List (Coord × CellUpdate)) : Sheet :=
  edits.foldl edited sheet

/-! ## One edit -/

theorem cell?_touch (sheet : Sheet) (pos other : Coord) :
    (sheet.touch pos).cell? other =
      if other = pos then some (sheet.cell pos) else sheet.cell? other := by
  by_cases heq : other = pos
  · subst heq
    rw [if_pos rfl]
    exact Sparse.find?_put_self _ _ _
  · rw [if_neg heq]
    exact Sparse.find?_put_of_ne heq

/-- What is stored after an edit: the cell that it makes, unless that is empty and not only touched.
-/
theorem cell?_edited (sheet : Sheet) (pos other : Coord) (edit : CellUpdate) :
    (sheet.edited (pos, edit)).cell? other =
      if other = pos then
        (if edit.apply (sheet.cell pos) ≠ .blank ∨ edit = .touch then
          some (edit.apply (sheet.cell pos)) else none)
      else sheet.cell? other := by
  have hempty (cell : Cell) : (if cell.isEmpty then none else some cell) =
      if cell ≠ .blank then some cell else none := by
    rw [ite_not]
    exact if_congr Cell.isEmpty_iff rfl rfl
  cases edit with
  | set cell => simp [edited, cell?_setCell, hempty, CellUpdate.apply]
  | text s =>
    simp [edited, setText, cell?_setCell, hempty, CellUpdate.apply, CellValue.ofText]
  | format request => simp [edited, applyFormat, cell?_setCell, hempty, CellUpdate.apply]
  | touch => simp [edited, cell?_touch, CellUpdate.apply]

/-- What is seen after an edit: at its position the cell that it makes, else what was seen before.
-/
theorem cell_edited (sheet : Sheet) (pos other : Coord) (edit : CellUpdate) :
    (sheet.edited (pos, edit)).cell other =
      if other = pos then edit.apply (sheet.cell pos) else sheet.cell other := by
  rw [Sheet.cell, cell?_edited]
  by_cases heq : other = pos
  · rw [if_pos heq, if_pos heq]
    split
    · rfl
    · next hstored =>
      rw [not_or, not_not] at hstored
      exact hstored.1.symm
  · rw [if_neg heq, if_neg heq]
    rfl

/-! ## All edits -/

theorem editsAt_append_singleton (pos : Coord) (edits : List (Coord × CellUpdate))
    (edit : Coord × CellUpdate) :
    editsAt pos (edits ++ [edit]) =
      editsAt pos edits ++ if edit.1 = pos then [edit.2] else [] := by
  rw [editsAt, editsAt, List.filter_append, List.map_append]
  by_cases heq : edit.1 = pos
  · simp [heq]
  · simp [heq]

/-- At every position a sheet shows what the edits there make of a blank cell, and it stores the
cell unless this is blank and was not touched last. -/
theorem cell_editedBy_blank (name : String) (edits : List (Coord × CellUpdate)) (pos : Coord) :
    ((blank name).editedBy edits).cell pos = CellUpdate.applyAll (editsAt pos edits) .blank ∧
      ((((blank name).editedBy edits).cell? pos).isSome = true ↔
        ((blank name).editedBy edits).cell pos ≠ .blank ∨
          (editsAt pos edits).getLast? = some .touch) := by
  induction edits using List.reverseRecOn with
  | nil => simp [editedBy, editsAt, CellUpdate.applyAll, blank, cell, cell?]
  | append_singleton edits edit ih =>
    obtain ⟨other, edit⟩ := edit
    have hlast : (blank name).editedBy (edits ++ [(other, edit)]) =
        ((blank name).editedBy edits).edited (other, edit) := by
      rw [editedBy, List.foldl_append]
      rfl
    rw [hlast, editsAt_append_singleton, cell_edited, cell?_edited]
    by_cases heq : pos = other
    · subst heq
      rw [if_pos rfl, if_pos rfl, if_pos rfl, List.getLast?_concat, ih.1]
      refine ⟨?_, ?_⟩
      · rw [CellUpdate.applyAll, CellUpdate.applyAll, List.foldl_append]
        rfl
      · simp
    · rw [if_neg heq, if_neg heq, if_neg fun h => heq h.symm, List.append_nil]
      exact ih

/-! ## How many cells there are -/

section

variable {sheet : Sheet}
  (hcells : ∀ pos cell, sheet.cell? pos = some cell → cell.isEmpty = false)
include hcells

/-- Where no empty cell is stored, the stored ones are those that do not read as empty. -/
theorem isSome_cell?_iff (pos : Coord) :
    (sheet.cell? pos).isSome = true ↔ (sheet.cell pos).isEmpty = false := by
  rw [Sheet.cell]
  cases hcell : sheet.cell? pos with
  | none => simp [Cell.isEmpty_iff.2 rfl]
  | some cell => simp [hcells pos cell hcell]

theorem cellCount_eq_encard :
    (sheet.cellCount : ℕ∞) = {pos | (sheet.cell pos).isEmpty = false}.encard := by
  have hstored : {pos | (sheet.cell pos).isEmpty = false} =
      {pos | (sheet.cells.find? pos).isSome = true} := by
    ext pos
    rw [Set.mem_ofPred_eq, Set.mem_ofPred_eq]
    exact (isSome_cell?_iff hcells pos).symm
  rw [hstored, Sparse.encard_stored]
  rfl

theorem isEmpty_iff : sheet.isEmpty = true ↔ ∀ pos, sheet.cell pos = .blank := by
  have hstored : sheet.isEmpty = true ↔ ∀ pos, sheet.cell? pos = none := by
    rw [isEmpty, List.isEmpty_iff, List.eq_nil_iff_forall_not_mem]
    simp only [Prod.forall, Sparse.mem_entries_iff, cell?, Option.eq_none_iff_forall_ne_some]
  rw [hstored]
  refine forall_congr' fun pos => ?_
  rw [← Option.not_isSome_iff_eq_none, isSome_cell?_iff hcells, Bool.not_eq_false,
    Cell.isEmpty_iff]

end

/-- A sheet behaves as if every position had a cell of its own, blank at first. What is seen there
is what the edits of this position make of it, in their order, and it is stored if it has a value or
a format, or was touched last. Where no cell is touched, no empty one is stored, and the cells are
counted by those that have a value or a format. -/
theorem editedBy_blank (name : String) (edits : List (Coord × CellUpdate)) :
    let sheet := (blank name).editedBy edits
    (∀ pos, sheet.cell pos = CellUpdate.applyAll (editsAt pos edits) .blank) ∧
    (∀ pos, (sheet.cell? pos).isSome = true ↔
      sheet.value pos ≠ .empty ∨ (sheet.cell pos).format ≠ .plain ∨
        (editsAt pos edits).getLast? = some .touch) ∧
    ((∀ edit ∈ edits, edit.2 ≠ .touch) →
      (∀ pos cell, sheet.cell? pos = some cell → cell.isEmpty = false) ∧
      (sheet.cellCount : ℕ∞) = {pos | (sheet.cell pos).isEmpty = false}.encard ∧
      (sheet.isEmpty = true ↔
        ∀ pos, sheet.value pos = .empty ∧ (sheet.cell pos).format = .plain)) := by
  intro sheet
  have hstored (pos : Coord) : (sheet.cell? pos).isSome = true ↔
      sheet.cell pos ≠ .blank ∨ (editsAt pos edits).getLast? = some .touch :=
    (cell_editedBy_blank name edits pos).2
  refine ⟨fun pos => (cell_editedBy_blank name edits pos).1, fun pos => ?_, fun htouch => ?_⟩
  · rw [hstored, Ne, Cell.eq_blank_iff, not_and_or, or_assoc]
    rfl
  · have hcells : ∀ pos cell, sheet.cell? pos = some cell → cell.isEmpty = false := by
      intro pos cell hcell
      have hsame : sheet.cell pos = cell := by rw [Sheet.cell, hcell, Option.getD_some]
      rw [Bool.eq_false_iff, Ne, Cell.isEmpty_iff, ← hsame]
      rcases (hstored pos).1 (by rw [hcell]; rfl) with hne | hlast
      · exact hne
      · obtain ⟨edit, hedit, hkind⟩ := List.mem_map.1 (List.mem_of_getLast? hlast)
        exact absurd hkind (htouch edit (List.mem_of_mem_filter hedit))
    refine ⟨hcells, cellCount_eq_encard hcells, ?_⟩
    rw [isEmpty_iff hcells]
    exact forall_congr' fun pos => Cell.eq_blank_iff

/-- Edits of a log sheet: a text that is taken back from a cell with a format and from one without,
and a cell with both that is replaced by a blank one. -/
def logEdits : List (Coord × CellUpdate) :=
  [(⟨2, 1⟩, .text "calm"), (⟨0, 0⟩, .format .styleHint), (⟨0, 0⟩, .text "Day"), (⟨2, 1⟩, .text ""),
    (⟨0, 0⟩, .text ""), (⟨4, 4⟩, .set ⟨.boolean true, .styleHint⟩), (⟨4, 4⟩, .set .blank)]

theorem editedBy_blank_log :
    (∀ edit ∈ logEdits, edit.2 ≠ .touch) ∧
      ((blank "Log").editedBy logEdits).cell ⟨0, 0⟩ = ⟨.empty, .styleHint⟩ ∧
      ((blank "Log").editedBy logEdits).cellCount = 1 ∧
      {pos | (((blank "Log").editedBy logEdits).cell pos).isEmpty = false}.encard = 1 ∧
      (((blank "Log").editedBy (logEdits ++ [(⟨2, 1⟩, .touch)])).cell? ⟨2, 1⟩).isSome = true := by
  have htouch : ∀ edit ∈ logEdits, edit.2 ≠ .touch := by decide
  obtain ⟨hcells, -, hrest⟩ := editedBy_blank "Log" logEdits
  obtain ⟨-, hstored, -⟩ := editedBy_blank "Log" (logEdits ++ [(⟨2, 1⟩, .touch)])
  have hcount : ((blank "Log").editedBy logEdits).cellCount = 1 := by decide +kernel
  refine ⟨htouch, ?_, hcount, ?_, ?_⟩
  · rw [hcells]
    decide +kernel
  · rw [← (hrest htouch).2.1, hcount]
    rfl
  · exact (hstored _).2 (.inr (.inr (by decide +kernel)))

end Sheet

end FillScript
