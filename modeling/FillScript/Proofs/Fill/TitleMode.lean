import FillScript.Proofs.Fill.Replay
import FillScript.Proofs.Fill.Search
import FillScript.Proofs.Fill.Writing
import FillScript.Proofs.Script.Command
import Mathlib.Data.List.Forall2

/-!
# Scripts that address columns by title

In such a script a line either searches a column or fills one, and which of the two it does is told
by its title alone. A column has one title, so no column is both searched and filled, even where
titles repeat. `TitleRun` says what that leads to, and every line keeps it (`TitleRun.dispatch`): a
search finds what it would find in the document from the start (`Document.hits`), and only cells
below the header and in the column of a title to fill have changed (`Filling`).

Two results follow. What is searched by stays as it was (`replay_preserves`): the cursor, the cells
that change, the header and the last used row. And the cursor depends on the searches and on the
document from the start alone (`replay_cursor`).
-/

namespace FillScript

/-! ## Searches among commands -/

namespace Command

/-- The title and the value of a command that searches: one that assigns a title not to be filled.
-/
def search? (fill : List String) : Command → Option (String × String)
  | titleAssign title value => if title ∈ fill then none else some (title, value)
  | _ => none

theorem search?_eq_some_iff {fill : List String} {command : Command} {title value : String} :
    command.search? fill = some (title, value) ↔
      command = .titleAssign title value ∧ title ∉ fill := by
  cases command with
  | titleAssign t v =>
    rw [search?]
    by_cases hmem : t ∈ fill
    · rw [if_pos hmem]
      refine ⟨fun h => by simp at h, ?_⟩
      intro ⟨heq, hnot⟩
      obtain ⟨rfl, -⟩ : t = title ∧ v = value := by simpa using heq
      exact absurd hmem hnot
    · rw [if_neg hmem]
      constructor
      · intro h
        obtain ⟨rfl, rfl⟩ : t = title ∧ v = value := by simpa using h
        exact ⟨rfl, hmem⟩
      · intro ⟨heq, _⟩
        obtain ⟨rfl, rfl⟩ : t = title ∧ v = value := by simpa using heq
        rfl
  | _ => simp [search?]

/-- Commands that assign titles to fill only do not search. -/
theorem search?_eq_none {fill : List String} {commands : List Command}
    (hfill : ∀ title value, titleAssign title value ∈ commands → title ∈ fill) :
    ∀ command ∈ commands, command.search? fill = none := by
  intro command hcommand
  cases hsearch : command.search? fill with
  | none => rfl
  | some search =>
    obtain ⟨rfl, htitle⟩ := search?_eq_some_iff.1 hsearch
    exact absurd (hfill _ _ hcommand) htitle

end Command

/-! ## Cells of titles and hits -/

namespace Document

variable {δ : Type} [Document δ]

/-- The cells below the header in the first column of one of the titles. -/
def IsTitleCell (doc : δ) (sheet : String) (titles : String → Prop) (pos : Coord) : Prop :=
  IsBodyRow doc sheet pos.row ∧ ∃ title, titles title ∧ IsTitleCol doc sheet title pos.col

/-- No cell belongs both to a title and to none of the titles. -/
theorem not_isTitleCell {doc : δ} {sheet title : String} {fill : List String} {pos : Coord}
    (hcol : IsTitleCol doc sheet title pos.col) (hfill : title ∉ fill) :
    ¬IsTitleCell doc sheet (· ∈ fill) pos := by
  intro ⟨_, other, hother, hcol'⟩
  exact hfill (hcol.title_unique hcol' ▸ hother)

/-- What the searches among commands find in a document as it is. -/
def hits (doc : δ) (sheet : String) (fill : List String) (commands : List Command) :
    List (Option Coord) :=
  (commands.filterMap (Command.search? fill)).map fun search => lookUp doc sheet search.1 search.2

variable (doc : δ) (sheet : String) (fill : List String)

theorem hits_concat_of_none (commands : List Command) {command : Command}
    (hsearch : command.search? fill = none) :
    hits doc sheet fill (commands ++ [command]) = hits doc sheet fill commands := by
  simp [hits, hsearch]

theorem hits_concat_of_some (commands : List Command) {command : Command} {title value : String}
    (hsearch : command.search? fill = some (title, value)) :
    hits doc sheet fill (commands ++ [command]) =
      hits doc sheet fill commands ++ [lookUp doc sheet title value] := by
  simp [hits, hsearch]

/-- Hits are cells of titles that are not filled. -/
theorem isTitleCell_of_hits {commands : List Command} {pos : Coord}
    (hhit : some pos ∈ hits doc sheet fill commands) :
    IsTitleCell doc sheet (· ∉ fill) pos := by
  obtain ⟨⟨title, value⟩, hsearch, hfind⟩ := List.mem_map.1 hhit
  obtain ⟨command, -, hcommand⟩ := List.mem_filterMap.1 hsearch
  obtain ⟨-, hfill⟩ := Command.search?_eq_some_iff.1 hcommand
  obtain ⟨hcol, hrow, -⟩ := lookUp_eq_some_iff.1 hfind
  exact ⟨hrow, title, hfill, hcol⟩

end Document

/-! ## The cell that is filled -/

namespace Cursor

/-- Beside a hit there is a cell in every column; beside a lost cursor there is none. -/
theorem coord?_withCol_ofHit {hit : Option Coord} {col : Int} {pos : Coord}
    (hpos : ((ofHit hit).withCol col).coord? = some pos) :
    (∃ found, hit = some found ∧ pos.row = found.row) ∧ Coord.word? col = some pos.col := by
  obtain ⟨hrow, hcol⟩ := coord?_eq_some_iff.1 hpos
  refine ⟨?_, hcol⟩
  cases hit with
  | none =>
    have hnone := Coord.word?_of_neg (show (-1 : Int) < 0 by decide)
    exact absurd (hnone.symm.trans hrow) (by simp)
  | some found =>
    refine ⟨found, rfl, ?_⟩
    have hfound : Coord.word? (found.row.toNat : Int) = some pos.row := hrow
    rw [Coord.word?_toNat] at hfound
    simpa [eq_comm] using hfound

end Cursor

/-! ## The sheet while it is filled -/

/-- A session that began on a sheet of a workbook and has changed no cells but those to fill. -/
structure Filling (workbook : Workbook) (sheet : Sheet) (fill : List String) (live : Sheet)
    (s : Session Workbook) : Prop where
  name : s.sheet = sheet.name
  fillColumns : s.fillColumns = fill
  header : s.header = Document.header workbook sheet.name
  lastRow : s.lastRow = Document.lastUsedRow workbook sheet.name
  doc : s.doc = workbook.withSheet sheet.name live
  liveName : live.name = sheet.name
  cells : ∀ pos, ¬Document.IsTitleCell workbook sheet.name (· ∈ fill) pos →
    live.cell? pos = sheet.cell? pos

namespace Filling

variable {workbook : Workbook} {sheet live live' : Sheet} {fill : List String}
  {s : Session Workbook}

/-- Nothing is changed by counting and reporting. -/
theorem note (h : Filling workbook sheet fill live s) (stats : Stats) (log : Log) :
    Filling workbook sheet fill live { s with stats, log } :=
  ⟨h.name, h.fillColumns, h.header, h.lastRow, h.doc, h.liveName, h.cells⟩

/-- A cell to fill may be changed. -/
theorem change (h : Filling workbook sheet fill live s) {pos : Coord}
    (hpos : Document.IsTitleCell workbook sheet.name (· ∈ fill) pos)
    (hchanged : Sheet.ChangedAt pos live live') (stats : Stats) (log : Log) :
    Filling workbook sheet fill live'
      { s with doc := workbook.withSheet s.sheet live', stats, log } := by
  refine ⟨h.name, h.fillColumns, h.header, h.lastRow, ?_, hchanged.name.trans h.liveName, ?_⟩
  · rw [h.name]
  · intro other hother
    have hne : other ≠ pos := by
      intro heq
      exact hother (heq ▸ hpos)
    rw [hchanged.others other hne, h.cells other hother]

theorem isFillable_iff (h : Filling workbook sheet fill live s) (title : String) :
    s.isFillable title = true ↔ title ∈ fill := by
  rw [Session.isFillable, h.fillColumns, List.contains_iff_mem]

theorem word?_columnOf_eq_some_iff (h : Filling workbook sheet fill live s) {title : String}
    {col : UInt32} :
    Coord.word? (s.columnOf title) = some col ↔
      Document.IsTitleCol workbook sheet.name title col :=
  Session.word?_columnOf_eq_some_iff h.header

variable (hsheet : workbook.sheet? sheet.name = some sheet)
include hsheet

theorem on (h : Filling workbook sheet fill live s) : Session.On workbook live s where
  exists_sheet := ⟨sheet, h.name ▸ hsheet⟩
  doc := h.name ▸ h.doc
  name := h.liveName.trans h.name.symm

/-- Where nothing is filled the text is the one from the start. -/
theorem text (h : Filling workbook sheet fill live s) {pos : Coord}
    (hpos : ¬Document.IsTitleCell workbook sheet.name (· ∈ fill) pos) :
    Document.text workbook sheet.name pos = Document.text s.doc s.sheet pos := by
  rw [Workbook.text_of_sheet? hsheet, (h.on hsheet).text]
  rw [Sheet.text, Sheet.text, Sheet.value, Sheet.value, Sheet.cell, Sheet.cell, h.cells pos hpos]

/-- A search finds what it finds in the document from the start. -/
theorem findInColumn (h : Filling workbook sheet fill live s) {title : String}
    (htitle : title ∉ fill) (value : String) :
    s.findInColumn (s.columnOf title) value =
      s.found (Document.lookUp workbook sheet.name title value) value := by
  have hcolumn : (Session.start workbook sheet.name []).columnOf title = s.columnOf title := by
    rw [Session.columnOf, Session.columnOf, h.header]
    rfl
  have hhit : (Coord.word? (s.columnOf title)).bind (fun col =>
      Document.findInColumn s.doc s.sheet col s.lastRow (.loose value)) =
        Document.lookUp workbook sheet.name title value := by
    rw [Document.lookUp, hcolumn, h.lastRow]
    refine Option.bind_congr fun col hword => ?_
    have hcol := h.word?_columnOf_eq_some_iff.1 hword
    rw [h.name]
    refine (Document.findInColumn_congr fun row _ => ?_).symm
    rw [h.text hsheet (Document.not_isTitleCell hcol htitle), h.name]
  rw [Session.findInColumn, hhit]

/-- Writing at a cell to fill, or where no cell is, changes a cell to fill or none. -/
theorem write (h : Filling workbook sheet fill live s) {c : Cursor}
    (hc : ∀ pos, c.coord? = some pos →
      Document.IsTitleCell workbook sheet.name (· ∈ fill) pos) (value : String) :
    (∃ live', Filling workbook sheet fill live' (s.write c value) ∧
      ∀ pos, live.Uses pos → live'.Uses pos) ∧
      (s.write c value).stats.findsHit = s.stats.findsHit ∧
      (s.write c value).stats.findsMissed = s.stats.findsMissed := by
  cases hpos : c.coord? with
  | none =>
    rw [Session.write_of_coord?_none hpos]
    exact ⟨⟨live, h.note _ _, fun _ huses => huses⟩, rfl, rfl⟩
  | some pos =>
    rw [(h.on hsheet).write_of_some hpos]
    have hchange := h.change (hc pos hpos) (live.changedAt_filled pos value)
    exact ⟨⟨_, hchange _ _, fun _ => live.uses_filled pos value⟩, rfl, rfl⟩

/-- Adding a line there changes a cell to fill or none. -/
theorem append (h : Filling workbook sheet fill live s) {c : Cursor}
    (hc : ∀ pos, c.coord? = some pos →
      Document.IsTitleCell workbook sheet.name (· ∈ fill) pos) (line : String) :
    (∃ live', Filling workbook sheet fill live' (s.append c line) ∧
      (line ≠ "" → ∀ pos, live.Uses pos → live'.Uses pos)) ∧
      (s.append c line).stats.findsHit = s.stats.findsHit ∧
      (s.append c line).stats.findsMissed = s.stats.findsMissed := by
  cases hpos : c.coord? with
  | none =>
    rw [Session.append_of_coord?_none hpos]
    exact ⟨⟨live, h.note _ _, fun _ _ huses => huses⟩, rfl, rfl⟩
  | some pos =>
    rw [(h.on hsheet).append_of_some hpos]
    have hchange := h.change (hc pos hpos) (live.changedAt_extended pos line)
    exact ⟨⟨_, hchange _ _, fun hline _ => live.uses_extended pos hline⟩, rfl, rfl⟩

end Filling

/-! ## Runs of title commands -/

/-- What holds after title commands: the sheet with its changes, the cursor at the last hit, and as
many hits and misses as the document from the start has for the searches so far. -/
structure TitleRun (workbook : Workbook) (sheet : Sheet) (fill : List String) (done : List Command)
    (state : ScriptState) (s : Session Workbook) : Prop where
  filling : ∃ live, Filling workbook sheet fill live s ∧
    ((∀ command ∈ done, command ≠ .continuation "") → ∀ pos, sheet.Uses pos → live.Uses pos)
  cursor : state.cursor = .ofHit (Document.hits workbook sheet.name fill done).getLast?.join
  active : state.active = .idle ∨ ∃ title ∈ fill, state.active = .fill title
  findsHit : s.stats.findsHit =
    (Document.hits workbook sheet.name fill done).countP (·.isSome)
  findsMissed : s.stats.findsMissed =
    (Document.hits workbook sheet.name fill done).countP (·.isNone)

namespace TitleRun

variable {workbook : Workbook} {sheet : Sheet} {fill : List String} {done : List Command}
  {state : ScriptState} {s : Session Workbook}

/-- The last hit is a cell of a title that is searched. -/
theorem isTitleCell_of_getLast? {hit : Coord}
    (hhit : (Document.hits workbook sheet.name fill done).getLast?.join = some hit) :
    Document.IsTitleCell workbook sheet.name (· ∉ fill) hit := by
  rw [Option.join_eq_some_iff] at hhit
  exact Document.isTitleCell_of_hits _ _ _ (List.mem_of_getLast? hhit)

/-- Beside the cursor, in the column of a title to fill, is a cell to fill or none. -/
theorem isTitleCell_of_coord? (h : TitleRun workbook sheet fill done state s) {title : String}
    (htitle : title ∈ fill) {pos : Coord}
    (hpos : (state.cursor.withCol (s.columnOf title)).coord? = some pos) :
    Document.IsTitleCell workbook sheet.name (· ∈ fill) pos := by
  obtain ⟨live, hfilling, -⟩ := h.filling
  rw [h.cursor] at hpos
  obtain ⟨⟨found, hfound, hrow⟩, hcol⟩ := Cursor.coord?_withCol_ofHit hpos
  refine ⟨?_, title, htitle, hfilling.word?_columnOf_eq_some_iff.1 hcol⟩
  rw [hrow]
  exact (isTitleCell_of_getLast? hfound).1

/-- A command that does not search leaves the cursor and what was found. -/
theorem extend (h : TitleRun workbook sheet fill done state s) {command : Command}
    (hsearch : command.search? fill = none) {state' : ScriptState} {s' : Session Workbook}
    (hcursor : state'.cursor = state.cursor)
    (hactive : state'.active = .idle ∨ ∃ title ∈ fill, state'.active = .fill title)
    (hfilling : ∀ live, Filling workbook sheet fill live s →
      (∃ live', Filling workbook sheet fill live' s' ∧
        (command ≠ .continuation "" → ∀ pos, live.Uses pos → live'.Uses pos)) ∧
        s'.stats.findsHit = s.stats.findsHit ∧ s'.stats.findsMissed = s.stats.findsMissed) :
    TitleRun workbook sheet fill (done ++ [command]) state' s' := by
  have hhits := Document.hits_concat_of_none workbook sheet.name fill done hsearch
  obtain ⟨live, hlive, huses⟩ := h.filling
  obtain ⟨⟨live', hlive', huses'⟩, hhit, hmissed⟩ := hfilling live hlive
  refine ⟨⟨live', hlive', fun hdone pos hpos => ?_⟩, ?_, hactive, ?_, ?_⟩
  · refine huses' (hdone command (by simp)) pos (huses (fun other hother => ?_) pos hpos)
    exact hdone other (List.mem_append_left _ hother)
  · rw [hhits, hcursor, h.cursor]
  · rw [hhits, hhit, h.findsHit]
  · rw [hhits, hmissed, h.findsMissed]

variable (hsheet : workbook.sheet? sheet.name = some sheet)
include hsheet

theorem start : TitleRun workbook sheet fill [] .start (.start workbook sheet.name fill) where
  filling := by
    refine ⟨sheet, ⟨rfl, rfl, rfl, rfl, ?_, rfl, fun _ _ => rfl⟩, fun _ _ huses => huses⟩
    exact (Workbook.withSheet_self hsheet).symm
  cursor := rfl
  active := .inl rfl
  findsHit := rfl
  findsMissed := rfl

/-- A search leads to what the document from the start has for it. -/
theorem search (h : TitleRun workbook sheet fill done state s) {title : String}
    (htitle : title ∉ fill) (value : String) :
    TitleRun workbook sheet fill (done ++ [.titleAssign title value])
      { state with cursor := (s.findInColumn (s.columnOf title) value).1 }
      (s.findInColumn (s.columnOf title) value).2 := by
  have hhits := Document.hits_concat_of_some workbook sheet.name fill done
    (Command.search?_eq_some_iff.2 ⟨rfl, htitle⟩ :
      (Command.titleAssign title value).search? fill = some (title, value))
  obtain ⟨live, hlive, huses⟩ := h.filling
  rw [hlive.findInColumn hsheet htitle]
  have hkept : (∀ command ∈ done ++ [.titleAssign title value], command ≠ .continuation "") →
      ∀ pos, sheet.Uses pos → live.Uses pos :=
    fun hdone => huses fun other hother => hdone other (List.mem_append_left _ hother)
  cases hfind : Document.lookUp workbook sheet.name title value with
  | none =>
    rw [hfind] at hhits
    refine ⟨⟨live, hlive.note _ _, hkept⟩, ?_, h.active, ?_, ?_⟩
    · rw [hhits, List.getLast?_concat]
      rfl
    · rw [hhits, List.countP_append, ← h.findsHit]
      rfl
    · rw [hhits, List.countP_append, ← h.findsMissed]
      rfl
  | some pos =>
    rw [hfind] at hhits
    refine ⟨⟨live, hlive.note _ _, hkept⟩, ?_, h.active, ?_, ?_⟩
    · rw [hhits, List.getLast?_concat]
      rfl
    · rw [hhits, List.countP_append, ← h.findsHit]
      rfl
    · rw [hhits, List.countP_append, ← h.findsMissed]
      rfl

/-- Every title command is carried out as said. -/
theorem dispatch (h : TitleRun workbook sheet fill done state s) {command : Command}
    (hcommand : command.IsTitle) :
    TitleRun workbook sheet fill (done ++ [command]) (FillScript.dispatch state s command).1
      (FillScript.dispatch state s command).2 := by
  obtain ⟨live, hlive, -⟩ := h.filling
  cases hcommand with
  | comment =>
    refine h.extend rfl rfl h.active fun live hlive => ?_
    exact ⟨⟨live, hlive, fun _ _ huses => huses⟩, rfl, rfl⟩
  | titleAssign title value =>
    by_cases htitle : title ∈ fill
    · have hfill := (hlive.isFillable_iff title).2 htitle
      have hsearch : (Command.titleAssign title value).search? fill = none := if_pos htitle
      simp only [FillScript.dispatch, if_pos hfill]
      refine h.extend hsearch rfl (.inr ⟨title, htitle, rfl⟩) fun live hlive => ?_
      obtain ⟨⟨live', hlive', huses⟩, hfinds⟩ :=
        hlive.write hsheet (fun pos hpos => h.isTitleCell_of_coord? htitle hpos) value
      exact ⟨⟨live', hlive', fun _ => huses⟩, hfinds⟩
    · have hfill : ¬s.isFillable title = true := fun hfill =>
        htitle ((hlive.isFillable_iff title).1 hfill)
      simp only [FillScript.dispatch, if_neg hfill]
      exact h.search hsheet htitle value
  | continuation text =>
    rcases h.active with hidle | ⟨title, htitle, hactive⟩
    · simp only [FillScript.dispatch, hidle]
      refine h.extend rfl rfl h.active fun live hlive => ?_
      exact ⟨⟨live, hlive.note _ _, fun _ _ huses => huses⟩, rfl, rfl⟩
    · simp only [FillScript.dispatch, hactive]
      refine h.extend rfl rfl h.active fun live hlive => ?_
      obtain ⟨⟨live', hlive', huses⟩, hfinds⟩ :=
        hlive.append hsheet (fun pos hpos => h.isTitleCell_of_coord? htitle hpos) text
      exact ⟨⟨live', hlive', fun htext => huses fun hempty => htext (hempty ▸ rfl)⟩, hfinds⟩

/-- The lines of a script that addresses columns by title are carried out as said. -/
theorem replay {template : Template} (htemplate : template.useTitle = true)
    (lines : List String) :
    TitleRun workbook sheet template.fillColumns (lines.map (Command.ofLine true))
      (template.replay workbook sheet.name lines).1
      (template.replay workbook sheet.name lines).2 := by
  rw [Template.replay, htemplate]
  refine dispatchAll_induction (Q := Command.IsTitle) (start hsheet)
    (fun h hcommand => h.dispatch hsheet hcommand) fun command hcommand => ?_
  obtain ⟨line, -, rfl⟩ := List.mem_map.1 hcommand
  exact Command.isTitle_ofLine line

end TitleRun

/-! ## What is searched by stays -/

namespace Filling

variable {workbook : Workbook} {sheet live : Sheet} {fill : List String} {s : Session Workbook}

/-- Row 0 is not filled. -/
theorem header_eq (h : Filling workbook sheet fill live s) : live.header = sheet.header := by
  refine Sheet.header_congr fun col => ?_
  have hrow : ¬Document.IsTitleCell workbook sheet.name (· ∈ fill) ⟨0, col⟩ := by
    intro ⟨⟨hrow, _⟩, _⟩
    exact absurd (show (1 : UInt32) ≤ 0 from hrow) (by decide)
  rw [Sheet.value, Sheet.value, Sheet.cell, Sheet.cell, h.cells _ hrow]

/-- Where no value is taken away the last used row stays: the cells to fill are not below it. -/
theorem lastUsedRow_eq (hsheet : workbook.sheet? sheet.name = some sheet)
    (h : Filling workbook sheet fill live s) (huses : ∀ pos, sheet.Uses pos → live.Uses pos) :
    live.lastUsedRow = sheet.lastUsedRow := by
  have hstart := Workbook.lastUsedRow_of_sheet? hsheet
  refine live.isLast_lastUsedRow.unique (sheet.isLast_lastUsedRow.mono ?_ ?_)
  · intro row ⟨col, hpos⟩
    exact ⟨col, huses _ hpos⟩
  · intro row ⟨col, hpos⟩
    by_cases hfill : Document.IsTitleCell workbook sheet.name (· ∈ fill) ⟨row, col⟩
    · obtain ⟨⟨-, last, hlast, hle⟩, -⟩ := hfill
      have hused := sheet.isLast_lastUsedRow
      rw [← hstart, hlast] at hused
      exact ⟨last, hused.1, hle⟩
    · refine ⟨row, ⟨col, ?_⟩, UInt32.le_refl row⟩
      rw [Sheet.Uses, Sheet.value, Sheet.cell, h.cells _ hfill] at hpos
      exact hpos

end Filling

/-- In a script that addresses columns by title and has no blank lines, after every line the cursor
is lost or below the header in the column of a title that is searched, only cells below the header
in the column of a title to fill have changed, and the header and the last used row are those from
the start. -/
theorem replay_preserves {template : Template} (htemplate : template.useTitle = true)
    {workbook : Workbook} {name : String} {sheet : Sheet}
    (hsheet : workbook.sheet? name = some sheet) {lines : List String}
    (hlines : ∀ line ∈ lines, Text.isBlankText line = false) {done : List String}
    (hdone : done <+: lines) :
    ((template.replay workbook name done).1.cursor = .lost ∨
      ∃ pos, (template.replay workbook name done).1.cursor = .ofCoord pos ∧
        Document.IsBodyRow workbook name pos.row ∧
        ∃ title, title ∉ template.fillColumns ∧
          Document.IsTitleCol workbook name title pos.col) ∧
    (∃ live, (template.replay workbook name done).2.doc = workbook.withSheet name live ∧
      live.name = name ∧
      ∀ pos, live.cell? pos ≠ sheet.cell? pos →
        Document.IsBodyRow workbook name pos.row ∧
        ∃ title, title ∈ template.fillColumns ∧
          Document.IsTitleCol workbook name title pos.col) ∧
    (template.replay workbook name done).2.header = Document.header workbook name ∧
    Document.header (template.replay workbook name done).2.doc name =
      (template.replay workbook name done).2.header ∧
    (template.replay workbook name done).2.lastRow = Document.lastUsedRow workbook name ∧
    Document.lastUsedRow (template.replay workbook name done).2.doc name =
      (template.replay workbook name done).2.lastRow := by
  obtain rfl := Workbook.name_of_sheet? hsheet
  have hrun := TitleRun.replay hsheet htemplate done
  obtain ⟨live, hlive, huses⟩ := hrun.filling
  have hkept : ∀ pos, sheet.Uses pos → live.Uses pos := by
    refine huses fun command hcommand => ?_
    obtain ⟨line, hline, rfl⟩ := List.mem_map.1 hcommand
    exact Command.ofLine_ne_continuation (hlines line (hdone.subset hline))
  have hstart := Workbook.withSheet_self hsheet
  have hheader := Workbook.header_withSheet hsheet rfl
  have hlast := Workbook.lastUsedRow_withSheet hsheet rfl
  rw [hstart] at hheader hlast
  refine ⟨?_, ⟨live, hlive.doc, hlive.liveName, fun pos hpos => ?_⟩, hlive.header, ?_,
    hlive.lastRow, ?_⟩
  · rw [hrun.cursor]
    cases hhit : (Document.hits workbook sheet.name template.fillColumns
        (done.map (Command.ofLine true))).getLast?.join with
    | none => exact .inl rfl
    | some pos =>
      obtain ⟨hrow, htitle⟩ := TitleRun.isTitleCell_of_getLast? hhit
      exact .inr ⟨pos, rfl, hrow, htitle⟩
  · by_contra hother
    exact hpos (hlive.cells pos hother)
  · rw [hlive.doc, Workbook.header_withSheet hsheet hlive.liveName, hlive.header, hheader,
      hlive.header_eq]
  · rw [hlive.doc, Workbook.lastUsedRow_withSheet hsheet hlive.liveName, hlive.lastRow, hlast,
      hlive.lastUsedRow_eq hsheet hkept]

/-- A list of members with a column for what they paid. -/
def roster : Sheet :=
  ((Sheet.withHeader "Members" ["Name", "Paid"]).setText ⟨1, 0⟩ "Ada").setText ⟨2, 0⟩ "Bob"

/-- A script that fills the column for what was paid. -/
def rosterScript : Template :=
  ⟨.empty, .empty, true, [], ["Paid"], .empty⟩

theorem replay_preserves_roster :
    rosterScript.useTitle = true ∧
      (Workbook.mk "Dues" [roster]).sheet? "Members" = some roster ∧
      (∀ line ∈ ["Name: bob", "Paid: yes", "in cash"], Text.isBlankText line = false) ∧
      ["Name: bob", "Paid: yes"] <+: ["Name: bob", "Paid: yes", "in cash"] ∧
      Document.lastUsedRow (rosterScript.replay (Workbook.mk "Dues" [roster]) "Members"
        ["Name: bob", "Paid: yes"]).2.doc "Members" = some 2 := by
  have hlines : ∀ line ∈ ["Name: bob", "Paid: yes", "in cash"], Text.isBlankText line = false := by
    decide
  have hdone : ["Name: bob", "Paid: yes"] <+: ["Name: bob", "Paid: yes", "in cash"] := by decide
  refine ⟨rfl, rfl, hlines, hdone, ?_⟩
  have hsheet : (Workbook.mk "Dues" [roster]).sheet? "Members" = some roster := rfl
  have htemplate : rosterScript.useTitle = true := rfl
  obtain ⟨-, -, -, -, hstart, hlive⟩ := replay_preserves htemplate hsheet hlines hdone
  rw [hlive, hstart]
  rfl

/-! ## Searches do not see what is filled -/

namespace Command

/-- Commands of one kind: searches are the same, fills may have other values and continuations other
texts. -/
inductive SameKind (fill : List String) : Command → Command → Prop where
  | comment : SameKind fill .comment .comment
  | search {title : String} (htitle : title ∉ fill) (value : String) :
    SameKind fill (.titleAssign title value) (.titleAssign title value)
  | fill {title : String} (htitle : title ∈ fill) (value value' : String) :
    SameKind fill (.titleAssign title value) (.titleAssign title value')
  | continuation (text text' : String) : SameKind fill (.continuation text) (.continuation text')

theorem SameKind.search?_eq {fill : List String} {first second : Command}
    (hkind : SameKind fill first second) : first.search? fill = second.search? fill := by
  cases hkind with
  | comment => rfl
  | search htitle value => rfl
  | fill htitle value value' => rw [search?, search?, if_pos htitle, if_pos htitle]
  | continuation text text' => rfl

end Command

namespace Document

variable {δ : Type} [Document δ] (doc : δ) (sheet : String) (fill : List String)

/-- Commands of the same kinds have the same hits. -/
theorem hits_eq_of_sameKind {first second : List Command}
    (hkinds : List.Forall₂ (Command.SameKind fill) first second) :
    hits doc sheet fill first = hits doc sheet fill second := by
  rw [hits, hits]
  congr 1
  induction hkinds with
  | nil => rfl
  | cons hkind _ ih => rw [List.filterMap_cons, List.filterMap_cons, hkind.search?_eq, ih]

theorem hits_eq_nil {commands : List Command}
    (hnone : ∀ command ∈ commands, command.search? fill = none) :
    hits doc sheet fill commands = [] := by
  rw [hits, List.map_eq_nil_iff, List.filterMap_eq_nil_iff]
  exact hnone

/-- The last hit is that of the latest search. -/
theorem getLast?_hits {before after : List Command} {title value : String} (htitle : title ∉ fill)
    (hafter : ∀ command ∈ after, command.search? fill = none) :
    (hits doc sheet fill (before ++ .titleAssign title value :: after)).getLast? =
      some (lookUp doc sheet title value) := by
  have hsearch : (Command.titleAssign title value).search? fill = some (title, value) :=
    Command.search?_eq_some_iff.2 ⟨rfl, htitle⟩
  have hnone := List.filterMap_eq_nil_iff.2 hafter
  simp [hits, hsearch, hnone]

end Document

/-- In a script that addresses columns by title, the cursor after every line is where the latest
search leads in the document from the start, and lost before the first search. Other values to fill
and other texts to add change neither a cursor nor how much was found. -/
theorem replay_cursor {template : Template} (htemplate : template.useTitle = true)
    {workbook : Workbook} {name : String} {sheet : Sheet}
    (hsheet : workbook.sheet? name = some sheet) :
    (∀ lines : List String,
      ((∀ title value, .titleAssign title value ∈ lines.map (Command.ofLine true) →
          title ∈ template.fillColumns) →
        (template.replay workbook name lines).1.cursor = .lost) ∧
      ∀ before title value after,
        lines.map (Command.ofLine true) = before ++ .titleAssign title value :: after →
        title ∉ template.fillColumns →
        (∀ other value', .titleAssign other value' ∈ after → other ∈ template.fillColumns) →
        Document.LeadsTo workbook name title value
          (template.replay workbook name lines).1.cursor) ∧
    ∀ lines lines' : List String,
      List.Forall₂ (fun line line' => Command.SameKind template.fillColumns
        (Command.ofLine true line) (Command.ofLine true line')) lines lines' →
      ∀ n,
        (template.replay workbook name (lines.take n)).1.cursor =
          (template.replay workbook name (lines'.take n)).1.cursor ∧
        (template.replay workbook name (lines.take n)).2.stats.findsHit =
          (template.replay workbook name (lines'.take n)).2.stats.findsHit ∧
        (template.replay workbook name (lines.take n)).2.stats.findsMissed =
          (template.replay workbook name (lines'.take n)).2.stats.findsMissed := by
  obtain rfl := Workbook.name_of_sheet? hsheet
  have hrun := TitleRun.replay hsheet htemplate
  refine ⟨fun lines => ⟨fun hfill => ?_, ?_⟩, fun lines lines' hkinds n => ?_⟩
  · rw [(hrun lines).cursor, Document.hits_eq_nil _ _ _ (Command.search?_eq_none hfill)]
    rfl
  · intro before title value after hlines htitle hafter
    rw [(hrun lines).cursor, hlines,
      Document.getLast?_hits _ _ _ htitle (Command.search?_eq_none hafter)]
    exact Document.leadsTo_lookUp workbook sheet.name title value
  · have hcommands : List.Forall₂ (Command.SameKind template.fillColumns)
        ((lines.take n).map (Command.ofLine true)) ((lines'.take n).map (Command.ofLine true)) := by
      rw [List.forall₂_map_left_iff, List.forall₂_map_right_iff]
      exact List.forall₂_take n hkinds
    have hhits := Document.hits_eq_of_sameKind workbook sheet.name _ hcommands
    refine ⟨?_, ?_, ?_⟩
    · rw [(hrun _).cursor, (hrun _).cursor, hhits]
    · rw [(hrun _).findsHit, (hrun _).findsHit, hhits]
    · rw [(hrun _).findsMissed, (hrun _).findsMissed, hhits]

theorem replay_cursor_roster :
    rosterScript.useTitle = true ∧
      (Workbook.mk "Dues" [roster]).sheet? "Members" = some roster ∧
      (rosterScript.replay (Workbook.mk "Dues" [roster]) "Members" ["Paid: no"]).1.cursor = .lost ∧
      Document.LeadsTo (Workbook.mk "Dues" [roster]) "Members" "Name" "bob"
        (rosterScript.replay (Workbook.mk "Dues" [roster]) "Members"
          ["Paid: no", "Name: bob", "Paid: yes", "in cash"]).1.cursor ∧
      (rosterScript.replay (Workbook.mk "Dues" [roster]) "Members"
          ["Name: bob", "Paid: yes"]).2.stats.findsHit =
        (rosterScript.replay (Workbook.mk "Dues" [roster]) "Members"
          ["Name: bob", "Paid: Ada"]).2.stats.findsHit := by
  have htemplate : rosterScript.useTitle = true := rfl
  have hsheet : (Workbook.mk "Dues" [roster]).sheet? "Members" = some roster := rfl
  obtain ⟨hcursor, hsame⟩ := replay_cursor htemplate hsheet
  refine ⟨htemplate, hsheet, (hcursor _).1 ?_, (hcursor _).2 [.titleAssign "Paid" "no"] "Name" "bob"
    [.titleAssign "Paid" "yes", .continuation "in cash"] (by decide) (by decide) ?_, ?_⟩
  · intro title value hmem
    have hline : ["Paid: no"].map (Command.ofLine true) = [.titleAssign "Paid" "no"] := by decide
    rw [hline] at hmem
    obtain ⟨rfl, -⟩ : title = "Paid" ∧ value = "no" := by simpa using hmem
    decide
  · intro title value hmem
    obtain ⟨rfl, -⟩ : title = "Paid" ∧ value = "yes" := by simpa using hmem
    decide
  · refine (hsame _ _ (.cons ?_ (.cons ?_ .nil)) 2).2.1
    · exact .search (show "Name" ∉ rosterScript.fillColumns by decide) "bob"
    · exact .fill (show "Paid" ∈ rosterScript.fillColumns by decide) "yes" "Ada"

end FillScript
