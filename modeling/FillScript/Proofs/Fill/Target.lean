import FillScript.Proofs.Fill.Replay
import FillScript.Proofs.Fill.Writing

/-!
# The cell that a command writes to

A command writes to one cell at most (`Command.Target`). A fill writes beside the cursor in the
column of its title, a move where it leads, and a continuation where the active command did. What is
written, a value or a line, becomes of the value of the cell in one of five ways (`Entry.Turns`),
and the style is merged into its format. All other cells, of all sheets, stay as they are, and where
a command writes to no cell the document stays (`dispatch_target`).
-/

namespace FillScript

/-! ## What is written -/

namespace Entry

/-- The value of a cell before and after something is written to it. -/
inductive Turns : Entry → CellValue → CellValue → Prop where
  | keep {value : String} {old : CellValue} (hvalue : Text.isBlankText value = true) :
      Turns (.fill value) old old
  | replace {value : String} {old : CellValue} (hvalue : Text.isBlankText value = false) :
      Turns (.fill value) old (.text (escaped value))
  | extend {line : String} {old : CellValue} (hold : Text.isBlankText old.shown = false) :
      Turns (.extend line) old (.text (old.shown ++ "\n" ++ line))
  | begin {line : String} {old : CellValue} (hold : Text.isBlankText old.shown = true)
      (hline : line ≠ "") : Turns (.extend line) old (.text (escaped line))
  | clear {line : String} {old : CellValue} (hold : Text.isBlankText old.shown = true)
      (hline : line = "") : Turns (.extend line) old .empty

/-- The cell when something was written to it. -/
def applied (entry : Entry) (cell : Cell) : Cell :=
  match entry with
  | fill value => cell.filled value
  | extend line => cell.extended line

theorem turns_applied (entry : Entry) (cell : Cell) :
    entry.Turns cell.value (entry.applied cell).value := by
  cases entry with
  | fill value =>
    simp only [applied, Cell.filled]
    cases hvalue : Text.isBlankText value with
    | true => exact .keep hvalue
    | false => exact .replace hvalue
  | extend line =>
    simp only [applied, Cell.extended]
    cases hold : Text.isBlankText cell.value.shown with
    | false =>
      have hne : cell.value.shown ++ "\n" ++ line ≠ "" := by simp
      rw [Session.appendedText_of_not_blank hold, CellValue.ofText_of_ne hne]
      exact .extend hold
    | true =>
      rw [Session.appendedText_of_blank hold]
      by_cases hline : line = ""
      · rw [hline]
        exact .clear hold rfl
      · rw [CellValue.ofText_of_ne (escaped_ne_empty hline)]
        exact .begin hold hline

theorem format_applied (entry : Entry) (cell : Cell) :
    (entry.applied cell).format = cell.format.merge .styleHint := by
  cases entry with
  | fill value => rfl
  | extend line => rfl

/-- What a cell shows after a value was filled in. -/
theorem Turns.shown_fill {value : String} {old new : CellValue}
    (h : (Entry.fill value).Turns old new) :
    new.shown = if Text.isBlankText value then old.shown else escaped value := by
  cases h with
  | keep hvalue => rw [if_pos hvalue]
  | replace hvalue =>
    rw [if_neg (Bool.eq_false_iff.1 hvalue)]
    rfl

/-- What a cell shows after a line was added. -/
theorem Turns.shown_extend {line : String} {old new : CellValue}
    (h : (Entry.extend line).Turns old new) :
    new.shown = Session.appendedText old.shown line := by
  cases h with
  | extend hold =>
    rw [Session.appendedText_of_not_blank hold]
    rfl
  | begin hold hline =>
    rw [Session.appendedText_of_blank hold]
    rfl
  | clear hold hline =>
    rw [Session.appendedText_of_blank hold, hline]
    rfl

end Entry

/-! ## Where it is written -/

/-- The cell to which a command writes, in the sheet with an index, and what it writes. -/
def Command.Target (command : Command) (state : ScriptState) (s : Session Workbook) (i : Nat)
    (pos : Coord) (entry : Entry) : Prop :=
  s.doc.sheetIndex? s.sheet = some i ∧
    ∃ c, command.WritesTo state s c entry ∧ c.coord? = some pos

/-! ## Commands that write -/

namespace Session

/-- A command that writes nowhere leaves the document. -/
theorem doc_dispatch_of_not_writesTo {δ : Type} [Document δ] {state : ScriptState} {s : Session δ}
    {command : Command} (h : ∀ c entry, ¬command.WritesTo state s c entry) :
    (dispatch state s command).2.doc = s.doc := by
  rcases (step_dispatch state s command).writes_or_notes with
    ⟨c, entry, hwrites, -⟩ | ⟨stats, log, hnotes⟩
  · exact absurd hwrites (h c entry)
  · rw [hnotes]

section

variable {s : Session Workbook} {c : Cursor}

/-- Where there is no cell nothing is written. -/
theorem doc_enter_of_coord?_none (hpos : c.coord? = none) (entry : Entry) :
    (s.enter c entry).doc = s.doc := by
  cases entry with
  | fill value => rw [enter, write_of_coord?_none hpos]; rfl
  | extend line => rw [enter, append_of_coord?_none hpos]; rfl

/-- Where there is no sheet nothing is written. -/
theorem doc_enter_of_sheet?_none (hsheet : s.doc.sheet? s.sheet = none) (entry : Entry) :
    (s.enter c entry).doc = s.doc := by
  have hchange (f : Sheet → Sheet) :
      s.doc.change s.sheet f = .error (.sheetNotFound s.sheet) := by
    rw [Workbook.change, hsheet]
  cases hpos : c.coord? with
  | none => exact doc_enter_of_coord?_none hpos entry
  | some pos =>
    cases entry with
    | fill value =>
      have hstored : s.stored pos value = .error (.sheetNotFound s.sheet) := by
        unfold stored
        split
        · exact hchange _
        · exact hchange _
      simp only [enter, write, hpos, hstored]
      rfl
    | extend line =>
      simp only [enter, append, hpos, Document.setText, hchange]
      rfl

/-- A session is on the sheet that it has come to. -/
theorem exists_on {i : Nat} (hindex : s.doc.sheetIndex? s.sheet = some i) :
    ∃ sheet, s.doc.sheets[i]? = some sheet ∧ On s.doc sheet s := by
  obtain ⟨sheet, hat, hsheet⟩ := Workbook.exists_sheet_of_sheetIndex? hindex
  exact ⟨sheet, hat, ⟨sheet, hsheet⟩, (Workbook.withSheet_self hsheet).symm,
    Workbook.name_of_sheet? hsheet⟩

/-- What is written in a workbook changes one cell of the sheet. -/
theorem On.enter {workbook : Workbook} {live : Sheet} (h : On workbook live s) {pos : Coord}
    (hpos : c.coord? = some pos) (entry : Entry) :
    ∃ live', (s.enter c entry).doc = workbook.withSheet s.sheet live' ∧ live'.name = live.name ∧
      ∀ other, live'.cell? other =
        if other = pos then some (entry.applied (live.cell pos)) else live.cell? other := by
  cases entry with
  | fill value =>
    refine ⟨live.filled pos value, ?_, live.name_filled pos value, fun other => ?_⟩
    · rw [Session.enter, h.write_of_some hpos]
      rfl
    · exact live.cell?_filled pos other value
  | extend line =>
    refine ⟨live.extended pos line, ?_, live.name_extended pos line, fun other => ?_⟩
    · rw [Session.enter, h.append_of_some hpos]
      rfl
    · exact live.cell?_extended pos other line

end

end Session

/-- Workbooks that differ in one cell at most, in the sheet with an index. -/
structure Workbook.ChangedAt (i : Nat) (pos : Coord) (before after : Workbook) : Prop where
  name : after.name = before.name
  sheetNames : after.sheetNames = before.sheetNames
  others : ∀ j other, (j, other) ≠ (i, pos) → after.cellAt? j other = before.cellAt? j other

section

variable {state : ScriptState} {s : Session Workbook} {command : Command}

/-- A command changes the cell that it writes to, and no other one. -/
theorem Command.Target.changedAt {i : Nat} {pos : Coord} {entry : Entry}
    (h : command.Target state s i pos entry) :
    s.doc.ChangedAt i pos (dispatch state s command).2.doc ∧
      (dispatch state s command).2.doc.cellAt? i pos =
        some (entry.applied ((s.doc.cellAt? i pos).getD .blank)) := by
  obtain ⟨hindex, c, hwrites, hpos⟩ := h
  obtain ⟨sheet, hat, hon⟩ := Session.exists_on hindex
  obtain ⟨live, hdoc, hlive, hcells⟩ := hon.enter hpos entry
  have hold : s.doc.cellAt? i = sheet.cell? := by
    funext other
    rw [Workbook.cellAt?, hat, Option.bind_some]
  rw [Session.dispatch_of_writesTo hwrites, hdoc]
  refine ⟨⟨rfl, ?_, fun j other hne => ?_⟩, ?_⟩
  · exact Workbook.sheetNames_modifySheet (fun _ _ => hlive.trans hon.name) s.doc
  · rw [Workbook.cellAt?_withSheet hindex]
    by_cases hj : j = i
    · subst hj
      have hother : other ≠ pos := fun heq => hne (by rw [heq])
      rw [if_pos rfl, hcells, if_neg hother, hold]
    · rw [if_neg hj]
  · rw [Workbook.cellAt?_withSheet hindex, if_pos rfl, hcells, if_pos rfl, hold]
    rfl

/-- A command that writes to no cell leaves the workbook. -/
theorem doc_dispatch_of_not_target (h : ∀ i pos entry, ¬command.Target state s i pos entry) :
    (dispatch state s command).2.doc = s.doc := by
  by_cases hwrites : ∃ c entry, command.WritesTo state s c entry
  · obtain ⟨c, entry, hwrites⟩ := hwrites
    rw [Session.dispatch_of_writesTo hwrites]
    cases hpos : c.coord? with
    | none => exact Session.doc_enter_of_coord?_none hpos entry
    | some pos =>
      refine Session.doc_enter_of_sheet?_none (Workbook.sheetIndex?_eq_none_iff.1 ?_) entry
      cases hindex : s.doc.sheetIndex? s.sheet with
      | none => rfl
      | some i => exact absurd ⟨hindex, c, hwrites, hpos⟩ (h i pos entry)
  · exact Session.doc_dispatch_of_not_writesTo fun c entry hc => hwrites ⟨c, entry, hc⟩

/-- A command leaves the sheets in their places. -/
theorem sheetNames_dispatch :
    (dispatch state s command).2.doc.sheetNames = s.doc.sheetNames := by
  by_cases htarget : ∃ i pos entry, command.Target state s i pos entry
  · obtain ⟨i, pos, entry, htarget⟩ := htarget
    exact htarget.changedAt.1.sheetNames
  · rw [doc_dispatch_of_not_target fun i pos entry h => htarget ⟨i, pos, entry, h⟩]

theorem sheetIndex?_dispatch :
    (dispatch state s command).2.doc.sheetIndex? (dispatch state s command).2.sheet =
      s.doc.sheetIndex? s.sheet := by
  rw [(Session.SameSetting.dispatch s state command).sheet, Workbook.sheetIndex?,
    sheetNames_dispatch, Workbook.sheetIndex?]

end

/-- A command that writes to no cell leaves the workbook as it is. One that writes to a cell merges
the style into its format and makes of its value what is told by what it writes; all other cells of
all sheets stay. -/
theorem dispatch_target (state : ScriptState) (s : Session Workbook) (command : Command) :
    let after := (dispatch state s command).2.doc
    ((∀ i pos entry, ¬command.Target state s i pos entry) → after = s.doc) ∧
    ∀ i pos entry, command.Target state s i pos entry →
      (∃ value, entry.Turns ((s.doc.cellAt? i pos).getD .blank).value value ∧
        after.cellAt? i pos =
          some ⟨value, ((s.doc.cellAt? i pos).getD .blank).format.merge .styleHint⟩) ∧
      (∀ j other, (j, other) ≠ (i, pos) → after.cellAt? j other = s.doc.cellAt? j other) ∧
      after.name = s.doc.name ∧ after.sheetNames = s.doc.sheetNames := by
  refine ⟨doc_dispatch_of_not_target, fun i pos entry htarget => ?_⟩
  obtain ⟨hchanged, hcell⟩ := htarget.changedAt
  refine ⟨⟨_, entry.turns_applied _, ?_⟩, hchanged.others, hchanged.name, hchanged.sheetNames⟩
  rw [hcell, ← entry.format_applied]

/-- A yard's jobs, of which one has a note at the top of its cell. -/
def jobs : Sheet :=
  (Sheet.withHeader "Jobs" ["Job", "Note"]).setCell ⟨1, 1⟩ ⟨.text "open", ⟨false, .top⟩⟩

/-- Two sheets of one name, of which the first is being filled. -/
def jobsSession : Session Workbook :=
  .start ⟨"Yard", [jobs, jobs]⟩ "Jobs" ["Note"]

/-- A script that has filled the note of the first job. -/
def jobsState : ScriptState :=
  ⟨⟨1, 0⟩, .fill "Note"⟩

theorem dispatch_target_jobs :
    (Command.continuation "-noon").Target jobsState jobsSession 0 ⟨1, 1⟩ (.extend "-noon") ∧
      (dispatch jobsState jobsSession (.continuation "-noon")).2.doc.cellAt? 0 ⟨1, 1⟩ =
        some ⟨.text "open\n-noon", .styleHint⟩ ∧
      (dispatch jobsState jobsSession (.continuation "-noon")).2.doc.cellAt? 1 ⟨1, 1⟩ =
        some ⟨.text "open", ⟨false, .top⟩⟩ ∧
      (dispatch .start jobsSession (.move .down "noon")).2.doc = jobsSession.doc := by
  have htarget : (Command.continuation "-noon").Target jobsState jobsSession 0 ⟨1, 1⟩
      (.extend "-noon") :=
    ⟨by decide +kernel, _, .extendFill "-noon" rfl, by decide +kernel⟩
  have hold : jobsSession.doc.cellAt? 0 ⟨1, 1⟩ = some ⟨.text "open", ⟨false, .top⟩⟩ := by
    decide +kernel
  obtain ⟨-, htouched⟩ := dispatch_target jobsState jobsSession (.continuation "-noon")
  obtain ⟨⟨value, hturns, hcell⟩, hothers, -⟩ := htouched 0 ⟨1, 1⟩ _ htarget
  obtain ⟨hleft, -⟩ := dispatch_target .start jobsSession (.move .down "noon")
  refine ⟨htarget, ?_, ?_, hleft ?_⟩
  · rw [hcell, hold]
    rw [hold] at hturns
    cases hturns with
    | extend _ => rfl
    | begin hblank _ => exact absurd hblank (by decide)
    | clear hblank _ => exact absurd hblank (by decide)
  · rw [hothers 1 ⟨1, 1⟩ (by decide)]
    decide +kernel
  · rintro i pos entry ⟨-, c, hwrites, hpos⟩
    cases hwrites
    contradiction

end FillScript
