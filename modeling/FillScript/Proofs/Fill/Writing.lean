import FillScript.Fill.Session
import FillScript.Proofs.Document.Workbook

/-!
# What a write does to a workbook

A session writes to one cell of its sheet. What it makes of the cell depends on the cell and on what
is written alone (`Cell.filled`, `Cell.extended`), and the other cells stay (`Sheet.cell?_filled`,
`Sheet.cell?_extended`). On a workbook that has its sheet, filling and adding a line at a cursor
lead to the sheet with that cell changed (`Session.On.write`, `Session.On.append`), or to the same
sheet if no cell is there. A position that had a value still has one, except where an empty line is
added to a blank cell.
-/

namespace FillScript

/-! ## Texts that are stored -/

theorem escaped_ne_empty {value : String} (hvalue : value ≠ "") : escaped value ≠ "" := by
  unfold escaped
  split
  · intro hempty
    have := congrArg String.toList hempty
    simp at this
  · exact hvalue

theorem Session.appendedText_ne_empty {line existing : String} (hline : line ≠ "") :
    appendedText existing line ≠ "" := by
  unfold appendedText
  split
  · exact escaped_ne_empty hline
  · intro hempty
    have := congrArg String.toList hempty
    simp at this

theorem Text.isBlankText_append (first second : String) :
    isBlankText (first ++ second) = (isBlankText first && isBlankText second) := by
  rw [isBlankText, String.toList_append, List.all_append, isBlankText, isBlankText]

theorem isBlankText_escaped (value : String) :
    Text.isBlankText (escaped value) = Text.isBlankText value := by
  unfold escaped
  split
  · next hdash =>
    have hvalue : Text.isBlankText value = false := by
      cases hchars : value.toList with
      | nil => simp [hchars] at hdash
      | cons c rest =>
        obtain rfl : c = '-' := by simpa [hchars] using hdash
        rw [Text.isBlankText, hchars]
        rfl
    rw [Text.isBlankText_append, hvalue, Bool.and_false]
  · rfl

theorem Session.appendedText_of_not_blank {existing : String}
    (hexisting : Text.isBlankText existing = false) (line : String) :
    appendedText existing line = existing ++ "\n" ++ line := by
  rw [appendedText, if_neg (Bool.eq_false_iff.1 hexisting)]

theorem Session.appendedText_of_blank {existing : String}
    (hexisting : Text.isBlankText existing = true) (line : String) :
    appendedText existing line = escaped line := by
  rw [appendedText, if_pos hexisting]

theorem CellValue.ofText_of_ne {text : String} (htext : text ≠ "") :
    CellValue.ofText text = .text text := by
  have hempty : ¬text.isEmpty = true := fun h => htext (String.isEmpty_iff.1 h)
  rw [CellValue.ofText, if_neg hempty]

theorem ne_empty_of_isBlankText {value : String} (hvalue : ¬Text.isBlankText value = true) :
    value ≠ "" := by
  intro hempty
  subst hempty
  exact hvalue (by decide)

/-! ## Cells that are written -/

namespace Cell

/-- A cell with a value filled in. A blank value only asks for the style. -/
def filled (cell : Cell) (value : String) : Cell where
  value := if Text.isBlankText value then cell.value else .text (escaped value)
  format := cell.format.merge .styleHint

/-- A cell with a line added. -/
def extended (cell : Cell) (line : String) : Cell where
  value := .ofText (Session.appendedText cell.value.shown line)
  format := cell.format.merge .styleHint

/-- A cell that was asked for the style is worth keeping. -/
theorem isEmpty_styled (value : CellValue) (format : CellFormat) :
    isEmpty ⟨value, format.merge .styleHint⟩ = false := by
  have hne : (format.merge .styleHint == CellFormat.plain) = false := by
    rw [beq_eq_false_iff_ne]
    intro heq
    have hwrap := congrArg CellFormat.wrapText heq
    simp [CellFormat.merge, CellFormat.styleHint, CellFormat.plain] at hwrap
  rw [isEmpty, hne, Bool.and_false]

theorem isEmpty_value_filled {cell : Cell} (hcell : cell.value.isEmpty = false) (value : String) :
    (cell.filled value).value.isEmpty = false := by
  rw [filled]
  dsimp only
  split
  · exact hcell
  · rfl

theorem isEmpty_value_extended (cell : Cell) {line : String} (hline : line ≠ "") :
    (cell.extended line).value.isEmpty = false := by
  rw [extended, CellValue.ofText_of_ne (Session.appendedText_ne_empty hline)]
  rfl

end Cell

namespace Sheet

variable (sheet : Sheet) (pos : Coord)

/-- The sheet with a value filled into a cell. -/
def filled (value : String) : Sheet :=
  if Text.isBlankText value then sheet.applyFormat pos .styleHint
  else (sheet.setText pos (escaped value)).applyFormat pos .styleHint

/-- The sheet with a line added to a cell. -/
def extended (line : String) : Sheet :=
  (sheet.setText pos (Session.appendedText (sheet.text pos) line)).applyFormat pos .styleHint

@[simp]
theorem name_filled (value : String) : (sheet.filled pos value).name = sheet.name := by
  unfold filled
  split
  · rfl
  · rfl

@[simp]
theorem name_extended (line : String) : (sheet.extended pos line).name = sheet.name := rfl

/-- The stored cells after a change that asks for the style. -/
theorem cell?_applyFormat_styleHint (other : Coord) :
    (sheet.applyFormat pos .styleHint).cell? other =
      if other = pos then
        some ⟨(sheet.cell pos).value, (sheet.cell pos).format.merge .styleHint⟩
      else sheet.cell? other := by
  have hcell := cell?_setCell sheet pos other
    ⟨(sheet.cell pos).value, (sheet.cell pos).format.merge .styleHint⟩
  rw [Cell.isEmpty_styled] at hcell
  exact hcell

theorem cell?_applyFormat_setText (other : Coord) (text : String) :
    ((sheet.setText pos text).applyFormat pos .styleHint).cell? other =
      if other = pos then some ⟨.ofText text, (sheet.cell pos).format.merge .styleHint⟩
      else sheet.cell? other := by
  rw [cell?_applyFormat_styleHint, cell_setText, if_pos rfl]
  by_cases heq : other = pos
  · rw [if_pos heq, if_pos heq]
  · rw [if_neg heq, if_neg heq, cell?_setText_of_ne heq]

/-- Filling a cell changes that cell only. -/
theorem cell?_filled (other : Coord) (value : String) :
    (sheet.filled pos value).cell? other =
      if other = pos then some ((sheet.cell pos).filled value) else sheet.cell? other := by
  unfold filled Cell.filled
  by_cases hblank : Text.isBlankText value = true
  · rw [if_pos hblank, if_pos hblank, cell?_applyFormat_styleHint]
  · have hne := escaped_ne_empty (ne_empty_of_isBlankText hblank)
    rw [if_neg hblank, if_neg hblank, cell?_applyFormat_setText, CellValue.ofText_of_ne hne]

/-- Adding a line to a cell changes that cell only. -/
theorem cell?_extended (other : Coord) (line : String) :
    (sheet.extended pos line).cell? other =
      if other = pos then some ((sheet.cell pos).extended line) else sheet.cell? other :=
  cell?_applyFormat_setText sheet pos other _

/-- A sheet that differs from another at one position at most. -/
structure ChangedAt (pos : Coord) (before after : Sheet) : Prop where
  name : after.name = before.name
  others : ∀ other, other ≠ pos → after.cell? other = before.cell? other

theorem changedAt_filled (value : String) : ChangedAt pos sheet (sheet.filled pos value) where
  name := sheet.name_filled pos value
  others other hne := by rw [cell?_filled, if_neg hne]

theorem changedAt_extended (line : String) : ChangedAt pos sheet (sheet.extended pos line) where
  name := rfl
  others other hne := by rw [cell?_extended, if_neg hne]

theorem uses_of_cell? {sheet other : Sheet} {pos : Coord}
    (hsame : other.cell? pos = sheet.cell? pos) (huses : sheet.Uses pos) : other.Uses pos := by
  rw [Uses, value, cell, hsame]
  exact huses

/-- Filling a cell takes no value away. -/
theorem uses_filled (value : String) {other : Coord} (huses : sheet.Uses other) :
    (sheet.filled pos value).Uses other := by
  by_cases heq : other = pos
  · have hcell := cell?_filled sheet pos other value
    rw [if_pos heq] at hcell
    rw [Uses, Sheet.value, cell, hcell]
    exact Cell.isEmpty_value_filled (heq ▸ huses) value
  · exact uses_of_cell? ((sheet.changedAt_filled pos value).others other heq) huses

/-- Adding a line that is not empty takes no value away. -/
theorem uses_extended {line : String} (hline : line ≠ "") {other : Coord}
    (huses : sheet.Uses other) : (sheet.extended pos line).Uses other := by
  by_cases heq : other = pos
  · have hcell := cell?_extended sheet pos other line
    rw [if_pos heq] at hcell
    rw [Uses, value, cell, hcell]
    exact Cell.isEmpty_value_extended _ hline
  · exact uses_of_cell? ((sheet.changedAt_extended pos line).others other heq) huses

/-! ## At a cursor -/

/-- The sheet with a value filled in at a cursor, if there is a cell. -/
def filledAt (c : Cursor) (value : String) : Sheet :=
  match c.coord? with
  | some pos => sheet.filled pos value
  | none => sheet

/-- The sheet with a line added at a cursor, if there is a cell. -/
def extendedAt (c : Cursor) (line : String) : Sheet :=
  match c.coord? with
  | some pos => sheet.extended pos line
  | none => sheet

theorem filledAt_of_some {c : Cursor} (hpos : c.coord? = some pos) (value : String) :
    sheet.filledAt c value = sheet.filled pos value := by
  rw [filledAt, hpos]

theorem filledAt_of_none {c : Cursor} (hpos : c.coord? = none) (value : String) :
    sheet.filledAt c value = sheet := by
  rw [filledAt, hpos]

theorem extendedAt_of_some {c : Cursor} (hpos : c.coord? = some pos) (line : String) :
    sheet.extendedAt c line = sheet.extended pos line := by
  rw [extendedAt, hpos]

theorem extendedAt_of_none {c : Cursor} (hpos : c.coord? = none) (line : String) :
    sheet.extendedAt c line = sheet := by
  rw [extendedAt, hpos]

end Sheet

/-! ## Writes of a session -/

namespace Stats

/-- The counts after a write, which is skipped where no cell is. -/
def written (stats : Stats) : Option Coord → Stats
  | some _ => { stats with writes := stats.writes + 1 }
  | none => { stats with skippedWrites := stats.skippedWrites + 1 }

/-- The counts after a line was added, which is skipped where no cell is. -/
def extended (stats : Stats) : Option Coord → Stats
  | some _ => { stats with appends := stats.appends + 1 }
  | none => { stats with skippedWrites := stats.skippedWrites + 1 }

end Stats

namespace Session

section

variable {δ : Type} [Document δ] {s : Session δ} {c : Cursor}

theorem write_of_coord?_none (hpos : c.coord? = none) (value : String) :
    s.write c value = s.skip c value := by
  rw [write, hpos]

theorem append_of_coord?_none (hpos : c.coord? = none) (line : String) :
    s.append c line = s.skip c line := by
  rw [append, hpos]

end

/-- A session on a workbook that had its sheet and in which this sheet by now is `live`. -/
structure On (workbook : Workbook) (live : Sheet) (s : Session Workbook) : Prop where
  exists_sheet : ∃ sheet, workbook.sheet? s.sheet = some sheet
  doc : s.doc = workbook.withSheet s.sheet live
  name : live.name = s.sheet

namespace On

variable {workbook : Workbook} {live : Sheet} {s : Session Workbook}

theorem start {name : String} {sheet : Sheet} (hsheet : workbook.sheet? name = some sheet)
    (fillColumns : List String) : On workbook sheet (.start workbook name fillColumns) where
  exists_sheet := ⟨sheet, hsheet⟩
  doc := (Workbook.withSheet_self hsheet).symm
  name := Workbook.name_of_sheet? hsheet

theorem sheet? (h : On workbook live s) : s.doc.sheet? s.sheet = some live := by
  obtain ⟨sheet, hsheet⟩ := h.exists_sheet
  rw [h.doc]
  exact Workbook.sheet?_withSheet hsheet h.name

theorem unique (h : On workbook live s) {other : Sheet} (hother : On workbook other s) :
    other = live :=
  Option.some.inj (hother.sheet?.symm.trans h.sheet?)

theorem text (h : On workbook live s) (pos : Coord) :
    Document.text s.doc s.sheet pos = live.text pos :=
  Workbook.text_of_sheet? h.sheet? pos

theorem lastUsedCol (h : On workbook live s) (row : UInt32) :
    Document.lastUsedCol s.doc s.sheet row = live.lastUsedCol row :=
  Workbook.lastUsedCol_of_sheet? h.sheet? row

/-- Nothing is changed by counting and reporting. -/
theorem note (h : On workbook live s) (stats : Stats) (log : Log) :
    On workbook live { s with stats, log } :=
  ⟨h.exists_sheet, h.doc, h.name⟩

theorem found (h : On workbook live s) (hit : Option Coord) (value : String) :
    On workbook live (s.found hit value).2 := by
  cases hit with
  | none => exact h.note _ _
  | some pos => exact h.note _ _

/-- The sheet may be replaced by another one of its name. -/
theorem replace (h : On workbook live s) {live' : Sheet} (hname : live'.name = live.name)
    (stats : Stats) (log : Log) :
    On workbook live'
      { s with doc := workbook.withSheet s.sheet live', stats, log } :=
  ⟨h.exists_sheet, rfl, hname.trans h.name⟩

theorem stored (h : On workbook live s) (pos : Coord) (value : String) :
    s.stored pos value = .ok (workbook.withSheet s.sheet (live.filled pos value)) := by
  obtain ⟨sheet, hsheet⟩ := h.exists_sheet
  unfold Session.stored Sheet.filled
  rw [h.doc]
  by_cases hblank : Text.isBlankText value = true
  · rw [if_pos hblank, if_pos hblank]
    exact Workbook.applyFormat_withSheet hsheet h.name pos _
  · rw [if_neg hblank, if_neg hblank]
    exact Workbook.setText_withSheet hsheet h.name pos _ _

/-- A write at a cell counts as a write. -/
theorem write_of_some (h : On workbook live s) {c : Cursor} {pos : Coord}
    (hpos : c.coord? = some pos) (value : String) :
    s.write c value = { s with
      doc := workbook.withSheet s.sheet (live.filled pos value)
      stats := { s.stats with writes := s.stats.writes + 1 } }.report
        (.added value pos s.sheet) := by
  rw [Session.write, hpos]
  dsimp only
  rw [h.stored]

/-- A line that is added at a cell counts as an append. -/
theorem append_of_some (h : On workbook live s) {c : Cursor} {pos : Coord}
    (hpos : c.coord? = some pos) (line : String) :
    s.append c line = { s with
      doc := workbook.withSheet s.sheet (live.extended pos line)
      stats := { s.stats with appends := s.stats.appends + 1 } }.report
        (.appended line pos s.sheet) := by
  obtain ⟨sheet, hsheet⟩ := h.exists_sheet
  have hset : Document.setText s.doc s.sheet pos
      (appendedText (Document.text s.doc s.sheet pos) line) .styleHint =
        .ok (workbook.withSheet s.sheet (live.extended pos line)) := by
    rw [h.text, h.doc]
    exact Workbook.setText_withSheet hsheet h.name pos _ _
  rw [Session.append, hpos]
  dsimp only
  rw [hset]

/-- A write leads to the sheet with the value filled in at the cursor. -/
theorem write (h : On workbook live s) (c : Cursor) (value : String) :
    On workbook (live.filledAt c value) (s.write c value) := by
  cases hpos : c.coord? with
  | none =>
    rw [write_of_coord?_none hpos, Sheet.filledAt_of_none _ hpos]
    exact h.note _ _
  | some pos =>
    rw [h.write_of_some hpos, Sheet.filledAt_of_some _ _ hpos]
    exact h.replace (live.name_filled pos value) _ _

/-- Adding a line leads to the sheet with the line added at the cursor. -/
theorem append (h : On workbook live s) (c : Cursor) (line : String) :
    On workbook (live.extendedAt c line) (s.append c line) := by
  cases hpos : c.coord? with
  | none =>
    rw [append_of_coord?_none hpos, Sheet.extendedAt_of_none _ hpos]
    exact h.note _ _
  | some pos =>
    rw [h.append_of_some hpos, Sheet.extendedAt_of_some _ _ hpos]
    exact h.replace (live.name_extended pos line) _ _

theorem stats_write (h : On workbook live s) (c : Cursor) (value : String) :
    (s.write c value).stats = s.stats.written c.coord? := by
  cases hpos : c.coord? with
  | none =>
    rw [write_of_coord?_none hpos]
    rfl
  | some pos =>
    rw [h.write_of_some hpos]
    rfl

theorem stats_append (h : On workbook live s) (c : Cursor) (line : String) :
    (s.append c line).stats = s.stats.extended c.coord? := by
  cases hpos : c.coord? with
  | none =>
    rw [append_of_coord?_none hpos]
    rfl
  | some pos =>
    rw [h.append_of_some hpos]
    rfl

end On

end Session

end FillScript
