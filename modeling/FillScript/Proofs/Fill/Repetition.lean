import FillScript.Proofs.Fill.Sections
import FillScript.Proofs.Fill.TitleMode
import Mathlib.Logic.Function.Basic

/-!
# Filling a document again

What a script does to a cell is told by a `CellEdit` that does not depend on what was in the cell:
nothing, asking for the style, or writing a text. Adding a line is such an edit only after a text
was written. Scripts in which every continuation adds to a fill with a value (`ContinuesFills`) see
to that, so that on two sheets with the same header, the same last row and the same texts in the
columns that are searched, they do the same edits (`Template.alike_replay`). What such a script
leaves is searched like what it began with (`Template.searchedAlike_replay`), and edits may be done
again (`CellEdit.apply_apply`). So the second time it changes nothing (`run_run`).
-/

namespace FillScript

/-! ## Edits of a cell -/

/-- What a script has done to a cell: nothing, asked for the style, or written a text. -/
inductive CellEdit where
  | keep
  | style
  | write (text : String)

namespace CellEdit

/-- What is stored after an edit. -/
def apply (edit : CellEdit) (stored : Option Cell) : Option Cell :=
  let cell := stored.getD .blank
  match edit with
  | keep => stored
  | style => some ⟨cell.value, cell.format.merge .styleHint⟩
  | write text => some ⟨.text text, cell.format.merge .styleHint⟩

/-- Writing a text leaves nothing of the edit before it. -/
theorem apply_write_apply (edit : CellEdit) (text : String) (stored : Option Cell) :
    (write text).apply (edit.apply stored) = (write text).apply stored := by
  cases edit with
  | keep => rfl
  | style => simp only [apply, Option.getD_some, CellFormat.merge_self]
  | write other => simp only [apply, Option.getD_some, CellFormat.merge_self]

/-- An edit that is done again changes nothing. -/
theorem apply_apply (edit : CellEdit) (stored : Option Cell) :
    edit.apply (edit.apply stored) = edit.apply stored := by
  cases edit with
  | keep => rfl
  | style => simp only [apply, Option.getD_some, CellFormat.merge_self]
  | write text => exact (write text).apply_write_apply text stored

/-- No edit takes a value away. -/
theorem isEmpty_value_apply (edit : CellEdit) {stored : Option Cell}
    (hused : (stored.getD .blank).value.isEmpty = false) :
    ((edit.apply stored).getD .blank).value.isEmpty = false := by
  cases edit with
  | keep => exact hused
  | style => exact hused
  | write text => rfl

/-- The edit that asks for the style as well. -/
def styled : CellEdit → CellEdit
  | keep => style
  | style => style
  | write text => write text

theorem apply_styled (edit : CellEdit) (stored : Option Cell) :
    edit.styled.apply stored = style.apply (edit.apply stored) := by
  cases edit with
  | keep => rfl
  | style => exact (apply_apply style stored).symm
  | write text => simp only [styled, apply, Option.getD_some, CellFormat.merge_self]

/-- The edit that fills in a value as well. -/
def filled (edit : CellEdit) (value : String) : CellEdit :=
  if Text.isBlankText value then edit.styled else write (escaped value)

theorem apply_filled (edit : CellEdit) (value : String) (stored : Option Cell) :
    (edit.filled value).apply stored = some (((edit.apply stored).getD .blank).filled value) := by
  rw [filled, Cell.filled]
  by_cases hblank : Text.isBlankText value = true
  · rw [if_pos hblank, if_pos hblank]
    exact edit.apply_styled stored
  · rw [if_neg hblank, if_neg hblank]
    exact (edit.apply_write_apply (escaped value) stored).symm

/-- The edit writes a text that is not blank. -/
def Writes (edit : CellEdit) : Prop :=
  ∃ text, Text.isBlankText text = false ∧ edit = write text

/-- An edit that writes a text, with a line added. -/
def extended (edit : CellEdit) (line : String) : CellEdit :=
  match edit with
  | keep => keep
  | style => style
  | write text => write (text ++ "\n" ++ line)

theorem apply_extended {edit : CellEdit} (hedit : edit.Writes) (line : String)
    (stored : Option Cell) :
    (edit.extended line).apply stored =
      some (((edit.apply stored).getD .blank).extended line) := by
  obtain ⟨text, htext, rfl⟩ := hedit
  have hshown := Session.appendedText_of_not_blank htext line
  have hne : text ++ "\n" ++ line ≠ "" := by
    intro hempty
    have := congrArg String.toList hempty
    simp at this
  simp only [extended, apply, Cell.extended, Option.getD_some, CellValue.shown, hshown,
    CellFormat.merge_self, CellValue.ofText_of_ne hne]

theorem Writes.filled (edit : CellEdit) {value : String}
    (hvalue : Text.isBlankText value = false) : (edit.filled value).Writes := by
  refine ⟨escaped value, (isBlankText_escaped value).trans hvalue, ?_⟩
  rw [CellEdit.filled, if_neg (Bool.eq_false_iff.1 hvalue)]

theorem Writes.extended {edit : CellEdit} (hedit : edit.Writes) (line : String) :
    (edit.extended line).Writes := by
  obtain ⟨text, htext, rfl⟩ := hedit
  refine ⟨text ++ "\n" ++ line, ?_, rfl⟩
  rw [Text.isBlankText_append, Text.isBlankText_append, htext, Bool.false_and, Bool.false_and]

end CellEdit

/-! ## Edits of a sheet -/

/-- A sheet is what edits of the cells of another one lead to. -/
def Sheet.Edited (edits : Coord → CellEdit) (sheet live : Sheet) : Prop :=
  ∀ pos, live.cell? pos = (edits pos).apply (sheet.cell? pos)

namespace Sheet.Edited

variable {edits : Coord → CellEdit} {sheet live : Sheet} (h : Edited edits sheet live)
include h

theorem uses {pos : Coord} (huses : sheet.Uses pos) : live.Uses pos := by
  rw [Uses, value, cell, h pos]
  exact (edits pos).isEmpty_value_apply huses

/-- Edits that are done again change nothing. -/
theorem cells_eq {again : Sheet} (hagain : Edited edits live again) : again.cells = live.cells := by
  ext1 pos
  have hpos := hagain pos
  rw [h pos, CellEdit.apply_apply, ← h pos] at hpos
  exact hpos

theorem filled (pos : Coord) (value : String) :
    Edited (Function.update edits pos ((edits pos).filled value)) sheet
      (live.filled pos value) := by
  intro other
  rw [cell?_filled]
  by_cases heq : other = pos
  · subst heq
    rw [if_pos rfl, Function.update_self, CellEdit.apply_filled, cell, h]
  · rw [if_neg heq, Function.update_of_ne heq]
    exact h other

theorem extended {pos : Coord} (hpos : (edits pos).Writes) (line : String) :
    Edited (Function.update edits pos ((edits pos).extended line)) sheet
      (live.extended pos line) := by
  intro other
  rw [cell?_extended]
  by_cases heq : other = pos
  · subst heq
    rw [if_pos rfl, Function.update_self, CellEdit.apply_extended hpos, cell, h]
  · rw [if_neg heq, Function.update_of_ne heq]
    exact h other

end Sheet.Edited

/-! ## Sessions with the same edits -/

namespace Session

/-- Sessions side by side that have done the same edits, each to its own sheet. -/
def EditedAlike (workbook workbook' : Workbook) (sheet sheet' : Sheet) (edits : Coord → CellEdit)
    (s t : Session Workbook) : Prop :=
  ∃ live live', Paired (.refl _) workbook workbook' live live' s t ∧
    sheet.Edited edits live ∧ sheet'.Edited edits live'

namespace EditedAlike

variable {workbook workbook' : Workbook} {sheet sheet' : Sheet} {edits : Coord → CellEdit}
  {s t : Session Workbook} (h : EditedAlike workbook workbook' sheet sheet' edits s t)
include h

theorem report (event event' : Event) :
    EditedAlike workbook workbook' sheet sheet' edits (s.report event) (t.report event') := by
  obtain ⟨live, live', hpaired, hedited⟩ := h
  exact ⟨live, live', hpaired.report event event', hedited⟩

/-- In the column of a title are the same cells on both sides. -/
theorem coord?_withCol (c : Cursor) {title : String} (htitle : title ≠ "") :
    (c.withCol (t.columnOf title)).coord? = (c.withCol (s.columnOf title)).coord? := by
  obtain ⟨live, live', hpaired, -⟩ := h
  exact (hpaired.coord?_withCol rfl htitle).trans Option.map_id'

/-- Searches in columns with the same texts lead to the same cursor. -/
theorem findInColumn {title : String} (htitle : title ≠ "")
    (htext : ∀ col, Coord.word? (s.columnOf title) = some col → ∀ row,
      Document.text t.doc t.sheet ⟨row, col⟩ = Document.text s.doc s.sheet ⟨row, col⟩)
    (value : String) :
    (t.findInColumn (t.columnOf title) value).1 = (s.findInColumn (s.columnOf title) value).1 ∧
      EditedAlike workbook workbook' sheet sheet' edits (s.findInColumn (s.columnOf title) value).2
        (t.findInColumn (t.columnOf title) value).2 := by
  obtain ⟨live, live', hpaired, hedited⟩ := h
  have hsame : ∀ col, Coord.word? (s.columnOf title) = some col → ∀ row,
      live'.text ⟨row, col⟩ = live.text ⟨row, col⟩ := by
    intro col hcol row
    rw [← hpaired.left.text, ← hpaired.right.text, htext col hcol row]
  obtain ⟨hcursor, hfound⟩ := hpaired.findInColumn htitle hsame value
  rw [Cursor.movedBy_refl] at hcursor
  exact ⟨hcursor, live, live', hfound, hedited⟩

variable {c c' : Cursor} (hsame : c'.coord? = c.coord?)
include hsame

/-- A value that is filled in is an edit on both sides. -/
theorem write (value : String) :
    ∃ edits',
      EditedAlike workbook workbook' sheet sheet' edits' (s.write c value) (t.write c' value) ∧
      ∀ pos, c.coord? = some pos → edits' pos = (edits pos).filled value := by
  obtain ⟨live, live', hpaired, hleft, hright⟩ := h
  have hwritten := hpaired.write (hsame.trans Option.map_id'.symm) value
  cases hpos : c.coord? with
  | none =>
    rw [Sheet.filledAt_of_none _ hpos, Sheet.filledAt_of_none _ (hsame.trans hpos)] at hwritten
    exact ⟨edits, ⟨live, live', hwritten, hleft, hright⟩, by simp⟩
  | some pos =>
    rw [Sheet.filledAt_of_some _ _ hpos, Sheet.filledAt_of_some _ _ (hsame.trans hpos)] at hwritten
    refine ⟨_, ⟨_, _, hwritten, hleft.filled pos value, hright.filled pos value⟩, ?_⟩
    intro other hother
    obtain rfl := Option.some.inj hother
    exact Function.update_self _ _ _

/-- A line that is added to what was written is an edit on both sides. -/
theorem append (hc : ∀ pos, c.coord? = some pos → (edits pos).Writes) (line : String) :
    ∃ edits',
      EditedAlike workbook workbook' sheet sheet' edits' (s.append c line) (t.append c' line) ∧
      ∀ pos, c.coord? = some pos → (edits' pos).Writes := by
  obtain ⟨live, live', hpaired, hleft, hright⟩ := h
  have hadded := hpaired.append (hsame.trans Option.map_id'.symm) line
  cases hpos : c.coord? with
  | none =>
    rw [Sheet.extendedAt_of_none _ hpos, Sheet.extendedAt_of_none _ (hsame.trans hpos)] at hadded
    exact ⟨edits, ⟨live, live', hadded, hleft, hright⟩, by simp⟩
  | some pos =>
    have hwrites := hc pos hpos
    rw [Sheet.extendedAt_of_some _ _ hpos,
      Sheet.extendedAt_of_some _ _ (hsame.trans hpos)] at hadded
    refine ⟨_, ⟨_, _, hadded, hleft.extended hwrites line, hright.extended hwrites line⟩, ?_⟩
    intro other hother
    obtain rfl := Option.some.inj hother
    rw [Function.update_self]
    exact hwrites.extended line

end EditedAlike

end Session

/-! ## Continuations that add to fills -/

namespace Command

/-- The title and the value of a command that assigns. -/
def assignment? : Command → Option (String × String)
  | titleAssign title value => some (title, value)
  | _ => none

/-- The latest assignment among commands. -/
def lastAssignment? (commands : List Command) : Option (String × String) :=
  (commands.filterMap assignment?).getLast?

theorem lastAssignment?_concat_titleAssign (commands : List Command) (title value : String) :
    lastAssignment? (commands ++ [titleAssign title value]) = some (title, value) := by
  simp [lastAssignment?, assignment?]

theorem lastAssignment?_concat_of_none (commands : List Command) {command : Command}
    (hnone : command.assignment? = none) :
    lastAssignment? (commands ++ [command]) = lastAssignment? commands := by
  simp [lastAssignment?, hnone]

/-- Every continuation has no assignment before it, or the nearest one before it fills a column and
has a value that is not blank. -/
def ContinuesFills (fill : List String) (commands : List Command) : Prop :=
  ∀ i (h : i < commands.length), commands[i].isContinuation = true →
    ∀ assigned ∈ lastAssignment? (commands.take i),
      assigned.1 ∈ fill ∧ Text.isBlankText assigned.2 = false

instance (fill : List String) (commands : List Command) :
    Decidable (ContinuesFills fill commands) :=
  inferInstanceAs (Decidable (∀ i (h : i < commands.length), commands[i].isContinuation = true →
    ∀ assigned ∈ lastAssignment? (commands.take i),
      assigned.1 ∈ fill ∧ Text.isBlankText assigned.2 = false))

theorem ContinuesFills.concat {fill : List String} {commands : List Command} {command : Command}
    (h : ContinuesFills fill (commands ++ [command])) :
    ContinuesFills fill commands ∧ (command.isContinuation = true →
      ∀ assigned ∈ lastAssignment? commands,
        assigned.1 ∈ fill ∧ Text.isBlankText assigned.2 = false) := by
  constructor
  · intro i hi hcontinuation
    have hconcat := h i (by rw [List.length_append]; omega)
    rw [List.getElem_append_left hi, List.take_append_of_le_length (Nat.le_of_lt hi)] at hconcat
    exact hconcat hcontinuation
  · have hlast := h commands.length (by simp)
    rw [List.getElem_concat_length rfl, List.take_left] at hlast
    exact hlast

end Command

/-! ## Runs with the same edits -/

/-- What a continuation adds to, by the latest assignment: to nothing if there is none, and to a
fill with a value, which has written a text unless there was no cell to write to. -/
def ScriptState.Awaits (fill : List String) (edits : Coord → CellEdit) (state : ScriptState)
    (s : Session Workbook) : Option (String × String) → Prop
  | none => state.active = .idle
  | some (title, value) => title ∈ fill → Text.isBlankText value = false →
    state.active = .fill title ∧ title ≠ "" ∧
      ∀ pos, (state.cursor.withCol (s.columnOf title)).coord? = some pos → (edits pos).Writes

/-- Two runs of the same commands that have done the same edits. -/
structure AlikeRun (workbook workbook' : Workbook) (sheet sheet' : Sheet) (fill : List String)
    (done : List Command) (edits : Coord → CellEdit) (state : ScriptState)
    (s t : Session Workbook) : Prop where
  alike : Session.EditedAlike workbook workbook' sheet sheet' edits s t
  awaits : state.Awaits fill edits s (Command.lastAssignment? done)

namespace AlikeRun

variable {workbook workbook' : Workbook} {sheet sheet' : Sheet} {fill : List String}
  {done : List Command} {edits : Coord → CellEdit} {state : ScriptState} {s t : Session Workbook}

/-- Commands that assign nothing leave what continuations add to. -/
theorem of_concat {command : Command} (hnone : command.assignment? = none)
    {edits' : Coord → CellEdit} {s' t' : Session Workbook}
    (halike : Session.EditedAlike workbook workbook' sheet sheet' edits' s' t')
    (hawaits : state.Awaits fill edits' s' (Command.lastAssignment? done)) :
    AlikeRun workbook workbook' sheet sheet' fill (done ++ [command]) edits' state s' t' := by
  rw [← Command.lastAssignment?_concat_of_none done hnone] at hawaits
  exact ⟨halike, hawaits⟩

variable (h : AlikeRun workbook workbook' sheet sheet' fill done edits state s t)
include h

/-- A value that is filled in is there for continuations to add to. -/
theorem write {title : String} (htitle : title ≠ "") (value : String) :
    ∃ edits', AlikeRun workbook workbook' sheet sheet' fill (done ++ [.titleAssign title value])
      edits' { state with active := .fill title }
      (s.write (state.cursor.withCol (s.columnOf title)) value)
      (t.write (state.cursor.withCol (t.columnOf title)) value) := by
  obtain ⟨edits', halike, hedits⟩ :=
    h.alike.write (h.alike.coord?_withCol state.cursor htitle) value
  refine ⟨edits', halike, ?_⟩
  rw [Command.lastAssignment?_concat_titleAssign]
  intro _ hvalue
  refine ⟨rfl, htitle, fun pos hpos => ?_⟩
  rw [(Session.SameSetting.write s _ value).columnOf] at hpos
  rw [hedits pos hpos]
  exact .filled (edits pos) hvalue

/-- A search leaves nothing for continuations to add to. -/
theorem search {title : String} (htitle : title ≠ "") (hmem : title ∉ fill)
    (htext : ∀ col, Coord.word? (s.columnOf title) = some col → ∀ row,
      Document.text t.doc t.sheet ⟨row, col⟩ = Document.text s.doc s.sheet ⟨row, col⟩)
    (value : String) :
    (t.findInColumn (t.columnOf title) value).1 = (s.findInColumn (s.columnOf title) value).1 ∧
      AlikeRun workbook workbook' sheet sheet' fill (done ++ [.titleAssign title value]) edits
        { state with cursor := (s.findInColumn (s.columnOf title) value).1 }
        (s.findInColumn (s.columnOf title) value).2
        (t.findInColumn (t.columnOf title) value).2 := by
  obtain ⟨hcursor, halike⟩ := h.alike.findInColumn htitle htext value
  refine ⟨hcursor, halike, ?_⟩
  rw [Command.lastAssignment?_concat_titleAssign]
  intro hfilled
  exact absurd hfilled hmem

/-- A continuation adds to a text that was written, or to nothing. -/
theorem continuation (text : String) (hcontinues : ∀ assigned ∈ Command.lastAssignment? done,
      assigned.1 ∈ fill ∧ Text.isBlankText assigned.2 = false) :
    ∃ edits', AlikeRun workbook workbook' sheet sheet' fill (done ++ [.continuation text]) edits'
      state (dispatch state s (.continuation text)).2 (dispatch state t (.continuation text)).2 := by
  have hawaits := h.awaits
  cases hlast : Command.lastAssignment? done with
  | none =>
    rw [hlast] at hawaits
    have hidle : state.active = .idle := hawaits
    simp only [dispatch, hidle]
    refine ⟨edits, of_concat rfl (h.alike.report _ _) ?_⟩
    rw [hlast]
    exact hidle
  | some assigned =>
    obtain ⟨title, value⟩ := assigned
    obtain ⟨hmem, hvalue⟩ := hcontinues _ hlast
    rw [hlast] at hawaits
    obtain ⟨hactive, htitle, hwrites⟩ := hawaits hmem hvalue
    obtain ⟨edits', halike, hwrites'⟩ :=
      h.alike.append (h.alike.coord?_withCol state.cursor htitle) hwrites text
    simp only [dispatch, hactive]
    refine ⟨edits', of_concat rfl halike ?_⟩
    rw [hlast]
    intro _ _
    refine ⟨hactive, htitle, fun pos hpos => ?_⟩
    rw [(Session.SameSetting.append s _ text).columnOf] at hpos
    exact hwrites' pos hpos

/-- A command keeps the runs alike, and their states the same. -/
theorem dispatch (hfill : ∀ title, s.isFillable title = true ↔ title ∈ fill)
    (htext : ∀ title ∉ fill, ∀ col, Coord.word? (s.columnOf title) = some col → ∀ row,
      Document.text t.doc t.sheet ⟨row, col⟩ = Document.text s.doc s.sheet ⟨row, col⟩)
    {command : Command} (hcommand : command.IsTitle) (hnamed : command.Named)
    (hcontinues : command.isContinuation = true → ∀ assigned ∈ Command.lastAssignment? done,
      assigned.1 ∈ fill ∧ Text.isBlankText assigned.2 = false) :
    (FillScript.dispatch state t command).1 = (FillScript.dispatch state s command).1 ∧
      ∃ edits', AlikeRun workbook workbook' sheet sheet' fill (done ++ [command]) edits'
        (FillScript.dispatch state s command).1 (FillScript.dispatch state s command).2
        (FillScript.dispatch state t command).2 := by
  cases hcommand with
  | comment => exact ⟨rfl, edits, of_concat rfl h.alike h.awaits⟩
  | titleAssign title value =>
    have htitle : title ≠ "" := fun heq => hnamed value (heq ▸ rfl)
    have hsame : t.isFillable title = s.isFillable title := by
      obtain ⟨live, live', hpaired, -⟩ := h.alike
      exact hpaired.isFillable title
    simp only [FillScript.dispatch, hsame]
    by_cases hmem : title ∈ fill
    · rw [if_pos ((hfill title).2 hmem), if_pos ((hfill title).2 hmem)]
      exact ⟨rfl, h.write htitle value⟩
    · have hnot : ¬s.isFillable title = true := fun hs => hmem ((hfill title).1 hs)
      obtain ⟨hcursor, hrun⟩ := h.search htitle hmem (htext title hmem) value
      rw [if_neg hnot, if_neg hnot]
      exact ⟨by simp only [hcursor], edits, hrun⟩
  | continuation text =>
    rw [state_dispatch_continuation, state_dispatch_continuation]
    exact ⟨rfl, h.continuation text (hcontinues rfl)⟩

end AlikeRun

/-! ## Documents that are searched alike -/

/-- Documents on whose sheets of a name the same is found and the same columns are filled. -/
structure Document.SearchedAlike (fill : List String) (workbook workbook' : Workbook)
    (name : String) : Prop where
  header : Document.header workbook' name = Document.header workbook name
  lastRow : Document.lastUsedRow workbook' name = Document.lastUsedRow workbook name
  text : ∀ title ∉ fill, ∀ col, Document.IsTitleCol workbook name title col → ∀ row,
    Document.text workbook' name ⟨row, col⟩ = Document.text workbook name ⟨row, col⟩

theorem Document.SearchedAlike.refl (fill : List String) (workbook : Workbook) (name : String) :
    SearchedAlike fill workbook workbook name :=
  ⟨rfl, rfl, fun _ _ _ _ _ => rfl⟩

namespace Template

section

variable {template : Template} (htemplate : template.useTitle = true) {workbook : Workbook}
  {name : String} {sheet : Sheet} (hsheet : workbook.sheet? name = some sheet)
include htemplate hsheet

/-- The texts in the columns that are searched stay. -/
theorem text_replay (lines : List String) {title : String} (htitle : title ∉ template.fillColumns)
    {col : UInt32} (hcol : Document.IsTitleCol workbook name title col) (row : UInt32) :
    Document.text (template.replay workbook name lines).2.doc name ⟨row, col⟩ =
      Document.text workbook name ⟨row, col⟩ := by
  obtain rfl := Workbook.name_of_sheet? hsheet
  obtain ⟨live, hlive, -⟩ := (TitleRun.replay hsheet htemplate lines).filling
  have hpos : ¬Document.IsTitleCell workbook sheet.name (· ∈ template.fillColumns) ⟨row, col⟩ :=
    Document.not_isTitleCell hcol htitle
  have htext := hlive.text hsheet hpos
  rw [hlive.name] at htext
  exact htext.symm

/-- What a script leaves is searched like what it began with, if no value was taken away. -/
theorem searchedAlike_replay {lines : List String} {live : Sheet}
    (hlive : Session.On workbook live (template.replay workbook name lines).2)
    (huses : ∀ pos, sheet.Uses pos → live.Uses pos) :
    Document.SearchedAlike template.fillColumns workbook
      (template.replay workbook name lines).2.doc name := by
  obtain rfl := Workbook.name_of_sheet? hsheet
  obtain ⟨filled, hfilled, -⟩ := (TitleRun.replay hsheet htemplate lines).filling
  obtain rfl := hlive.unique (hfilled.on hsheet)
  have hfound := hlive.sheet?
  rw [template.sheet_replay] at hfound
  refine ⟨?_, ?_, fun title htitle col hcol row =>
    text_replay htemplate hsheet lines htitle hcol row⟩
  · rw [Workbook.header_of_sheet? hfound, Workbook.header_of_sheet? hsheet, hfilled.header_eq]
  · rw [Workbook.lastUsedRow_of_sheet? hfound, Workbook.lastUsedRow_of_sheet? hsheet,
      hfilled.lastUsedRow_eq hsheet huses]

/-- On documents that are searched alike, a script whose continuations add to fills does the same
edits. -/
theorem alike_replay {workbook' : Workbook} {sheet' : Sheet}
    (hsheet' : workbook'.sheet? name = some sheet')
    (hsearched : Document.SearchedAlike template.fillColumns workbook workbook' name)
    {lines : List String} (hcontinues : Command.ContinuesFills template.fillColumns
      (lines.map (Command.ofLine true))) :
    (template.replay workbook' name lines).1 = (template.replay workbook name lines).1 ∧
      ∃ edits, AlikeRun workbook workbook' sheet sheet' template.fillColumns
        (lines.map (Command.ofLine true)) edits (template.replay workbook name lines).1
        (template.replay workbook name lines).2 (template.replay workbook' name lines).2 := by
  have htitleCol (title : String) (col : UInt32) :
      Document.IsTitleCol workbook' name title col ↔
        Document.IsTitleCol workbook name title col := by
    rw [Document.IsTitleCol, Document.IsTitleCol, hsearched.header]
  induction lines using List.reverseRecOn with
  | nil =>
    refine ⟨rfl, fun _ => .keep, ⟨sheet, sheet', ⟨.start hsheet _, .start hsheet' _, rfl,
      hsearched.lastRow, fun title _ => ?_, rfl⟩, fun _ => rfl, fun _ => rfl⟩, rfl⟩
    refine Option.ext fun col => ?_
    rw [Equiv.coe_refl, Option.map_id, id_eq, Session.word?_columnOf_eq_some_iff rfl, htitleCol,
      Session.word?_columnOf_eq_some_iff rfl]
  | append_singleton lines line ih =>
    rw [List.map_append] at hcontinues
    obtain ⟨hbefore, hline⟩ := hcontinues.concat
    obtain ⟨hstate, edits, hrun⟩ := ih hbefore
    have hsetting := template.sameSetting_replay workbook name lines
    rw [template.replay_concat, template.replay_concat, hstate, htemplate, List.map_append]
    refine hrun.dispatch (fun title => ?_) (fun title htitle col hcol row => ?_)
      (Command.isTitle_ofLine line) (Command.named_ofLine true line) hline
    · rw [Session.isFillable, hsetting.fillColumns]
      exact List.contains_iff_mem
    · rw [hsetting.columnOf, Session.word?_columnOf_eq_some_iff rfl] at hcol
      rw [template.sheet_replay, template.sheet_replay,
        text_replay htemplate hsheet lines htitle hcol,
        text_replay htemplate hsheet' lines htitle ((htitleCol title col).2 hcol),
        hsearched.text title htitle col hcol]

end

/-! ## Filling again -/

/-- Lines that are carried out again change nothing more and count the same. -/
theorem fillSheet_fillSheet {template : Template} (htemplate : template.useTitle = true)
    {lines : List String} (hcontinues : Command.ContinuesFills template.fillColumns
      (lines.map (Command.ofLine true))) (sheet : Sheet) :
    template.fillSheet lines (template.fillSheet lines sheet) = template.fillSheet lines sheet ∧
      (filledCells template.useTitle template.fillColumns lines
          (template.fillSheet lines sheet).cells).2 =
        (filledCells template.useTitle template.fillColumns lines sheet.cells).2 := by
  have hsheet : (Workbook.mk "" [sheet]).sheet? sheet.name = some sheet := by
    simp [Workbook.sheet?]
  generalize Workbook.mk "" [sheet] = workbook at hsheet
  have hsheet' : (template.replay workbook sheet.name lines).2.doc.sheet? sheet.name =
      some (template.fillSheet lines sheet) := by
    rw [← runSheet_eq_replay]
    exact template.sheet?_runSheet hsheet lines
  -- beside itself, the first time shows that it does edits and is searched alike afterwards
  obtain ⟨-, edits, ⟨live, live', hpaired, hedited, -⟩, -⟩ :=
    alike_replay htemplate hsheet hsheet (.refl _ workbook _) hcontinues
  have hsearched := searchedAlike_replay htemplate hsheet hpaired.left fun pos => hedited.uses
  -- beside the first time, the second does the same edits
  obtain ⟨-, edits', ⟨first, second, hpaired', hfirst, hsecond⟩, -⟩ :=
    alike_replay htemplate hsheet hsheet' hsearched hcontinues
  have hfirstlive := template.live_eq_fillSheet hsheet hpaired'.left
  have hsecondlive := template.live_eq_fillSheet hsheet' hpaired'.right
  rw [hfirstlive] at hfirst
  rw [hsecondlive] at hsecond
  have hcells := hfirst.cells_eq hsecond
  have hstats := (template.runSheet_of_sheet? hsheet lines).2
  have hstats' := (template.runSheet_of_sheet? hsheet' lines).2
  refine ⟨congrArg (Sheet.mk sheet.name) hcells, ?_⟩
  rw [← hstats, ← hstats']
  exact hpaired'.stats

/-- Sections leave a document in which every one of them has nothing left to do. -/
theorem fillSheets_eq_self {template : Template} {workbook : Workbook} {parts : List Section}
    (hparts : ∀ part ∈ parts, ∀ sheet, workbook.sheet? part.name = some sheet →
      template.fillSheet part.lines sheet = sheet) :
    template.fillSheets workbook parts = workbook := by
  induction parts using List.reverseRecOn with
  | nil => rfl
  | append_singleton parts part ih =>
    have hpart := hparts part (List.mem_append_right _ List.mem_cons_self)
    rw [fillSheets_concat, ih fun other hother => hparts other (List.mem_append_left _ hother)]
    exact Workbook.modifySheet_eq_self hpart

end Template

/-- A script that addresses columns by title, and in which every continuation adds to a fill with a
value or comes before all assignments, may be carried out again: nothing changes any more, and the
report is the same. -/
theorem run_run {template : Template} (htemplate : template.useTitle = true)
    (hcontinues : ∀ part ∈ template.sections.list,
      Command.ContinuesFills template.fillColumns (part.lines.map (Command.ofLine true)))
    (workbook : Workbook) :
    (template.run (template.run workbook).doc).doc = (template.run workbook).doc ∧
      (template.run (template.run workbook).doc).report = (template.run workbook).report := by
  have hdoc := template.doc_run workbook
  have hsheet (part : Section) (hpart : part ∈ template.sections.list) :
      (template.run workbook).doc.sheet? part.name =
        (workbook.sheet? part.name).map (template.fillSheet part.lines) := by
    rw [hdoc]
    exact Template.sheet?_fillSheets_of_mem workbook template.sections.distinct hpart
  constructor
  · rw [template.doc_run (template.run workbook).doc]
    refine Template.fillSheets_eq_self fun part hpart sheet hfound => ?_
    rw [hsheet part hpart, Option.map_eq_some_iff] at hfound
    obtain ⟨sheet, -, rfl⟩ := hfound
    exact (Template.fillSheet_fillSheet htemplate (hcontinues part hpart) sheet).1
  · have hstats : ∀ part ∈ template.sections.list,
        template.sectionStats (template.run workbook).doc part =
          template.sectionStats workbook part := by
      intro part hpart
      rw [Template.sectionStats, Template.sectionStats, hsheet part hpart]
      cases workbook.sheet? part.name with
      | none => rfl
      | some sheet =>
        exact (Template.fillSheet_fillSheet htemplate (hcontinues part hpart) sheet).2
    have hnames : (template.run workbook).doc.sheetNames = workbook.sheetNames := by
      rw [hdoc, Template.sheetNames_fillSheets]
    rw [template.report_run (template.run workbook).doc, template.report_run workbook,
      Template.reportOn, Template.reportOn, hnames, List.map_congr_left hstats]

theorem run_run_harbour :
    harbourScript.useTitle = true ∧
      (∀ part ∈ harbourScript.sections.list, Command.ContinuesFills harbourScript.fillColumns
        (part.lines.map (Command.ofLine true))) ∧
      (harbourScript.run (harbourScript.run harbour).doc).report.stats.appends = 1 ∧
      Document.text (harbourScript.run (harbourScript.run harbour).doc).doc "Berths" ⟨1, 1⟩ =
        "noon\nsharp" := by
  have htemplate : harbourScript.useTitle = true := rfl
  have hcontinues : ∀ part ∈ harbourScript.sections.list, Command.ContinuesFills
      harbourScript.fillColumns (part.lines.map (Command.ofLine true)) := by decide
  obtain ⟨hdoc, hreport⟩ := run_run htemplate hcontinues harbour
  rw [hdoc, hreport]
  exact ⟨htemplate, hcontinues, by decide, by decide⟩

end FillScript
