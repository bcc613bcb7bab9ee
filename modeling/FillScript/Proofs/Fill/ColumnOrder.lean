import FillScript.Proofs.Fill.SideBySide
import FillScript.Proofs.Script.Command
import Mathlib.Logic.Equiv.Basic

/-!
# The order of columns

Where columns are addressed by title their order does not matter. Two sessions, one of them on the
sheet of the other with its columns moved by a permutation (`Session.Moved`), remain so through
every command of such a script (`Moved.dispatch`), so that what a script leaves is moved as well and
its counts are the same (`runSheet_movedBy`).

Commands that find cells or move from them see the order of columns, so that for them nothing but
the identity is left. That case is worth having too: it says that neither the name of a sheet nor
the workbook around it has a say in what becomes of the cells.
-/

namespace FillScript

/-! ## Writes on moved sheets -/

namespace Sheet.Moved

variable {p : Equiv.Perm UInt32} {sheet other : Sheet} (h : Moved p sheet other)
include h

theorem filled (pos : Coord) (value : String) :
    Moved p (sheet.filled pos value) (other.filled (pos.movedBy p) value) := by
  intro origin
  rw [cell?_filled, cell?_filled, h.cell, h origin]
  by_cases heq : origin = pos
  · rw [if_pos heq, if_pos (congrArg (·.movedBy p) heq)]
  · rw [if_neg heq, if_neg fun hsame => heq (Coord.movedBy_injective p hsame)]

theorem extended (pos : Coord) (line : String) :
    Moved p (sheet.extended pos line) (other.extended (pos.movedBy p) line) := by
  intro origin
  rw [cell?_extended, cell?_extended, h.cell, h origin]
  by_cases heq : origin = pos
  · rw [if_pos heq, if_pos (congrArg (·.movedBy p) heq)]
  · rw [if_neg heq, if_neg fun hsame => heq (Coord.movedBy_injective p hsame)]

variable {c c' : Cursor} (hpos : c'.coord? = c.coord?.map (·.movedBy p))
include hpos

theorem filledAt (value : String) :
    Moved p (sheet.filledAt c value) (other.filledAt c' value) := by
  cases hc : c.coord? with
  | none =>
    rw [hc] at hpos
    rw [filledAt_of_none _ hc, filledAt_of_none _ hpos]
    exact h
  | some pos =>
    rw [hc] at hpos
    rw [filledAt_of_some _ _ hc, filledAt_of_some _ _ hpos]
    exact h.filled pos value

theorem extendedAt (line : String) :
    Moved p (sheet.extendedAt c line) (other.extendedAt c' line) := by
  cases hc : c.coord? with
  | none =>
    rw [hc] at hpos
    rw [extendedAt_of_none _ hc, extendedAt_of_none _ hpos]
    exact h
  | some pos =>
    rw [hc] at hpos
    rw [extendedAt_of_some _ _ hc, extendedAt_of_some _ _ hpos]
    exact h.extended pos line

end Sheet.Moved

/-! ## Sessions on moved sheets -/

/-- Commands that name their titles make no fill of the empty title active. -/
theorem ActiveCommand.after_ne_fill_empty {fill : List String} {active : ActiveCommand}
    (hactive : active ≠ .fill "") {command : Command} (hnamed : command.Named) :
    active.after fill command ≠ .fill "" := by
  cases command with
  | titleAssign title value =>
    rw [after]
    split
    · intro heq
      obtain rfl : title = "" := by simpa using heq
      exact hnamed value rfl
    · exact hactive
  | comment => exact hactive
  | rawFind mode value => exact hactive
  | move direction value => simp [after]
  | continuation text => exact hactive
  | badMove line => simp [after]
  | unrecognized line => exact hactive

namespace Session

/-- Sessions side by side, one of them on the sheet of the other with its columns moved. -/
def Moved (p : Equiv.Perm UInt32) (workbook workbook' : Workbook) (s t : Session Workbook) :
    Prop :=
  ∃ live live', Paired p workbook workbook' live live' s t ∧ live.Moved p live'

namespace Moved

variable {p : Equiv.Perm UInt32} {workbook workbook' : Workbook} {s t : Session Workbook}
  (h : Moved p workbook workbook' s t)

section

include h

theorem write {c c' : Cursor} (hpos : c'.coord? = c.coord?.map (·.movedBy p)) (value : String) :
    Moved p workbook workbook' (s.write c value) (t.write c' value) := by
  obtain ⟨live, live', hpaired, hsheets⟩ := h
  exact ⟨_, _, hpaired.write hpos value, hsheets.filledAt hpos value⟩

theorem append {c c' : Cursor} (hpos : c'.coord? = c.coord?.map (·.movedBy p)) (line : String) :
    Moved p workbook workbook' (s.append c line) (t.append c' line) := by
  obtain ⟨live, live', hpaired, hsheets⟩ := h
  exact ⟨_, _, hpaired.append hpos line, hsheets.extendedAt hpos line⟩

theorem report (event event' : Event) :
    Moved p workbook workbook' (s.report event) (t.report event') := by
  obtain ⟨live, live', hpaired, hsheets⟩ := h
  exact ⟨live, live', hpaired.report event event', hsheets⟩

theorem noteUnrecognized (line : String) :
    Moved p workbook workbook' (s.noteUnrecognized line) (t.noteUnrecognized line) := by
  obtain ⟨live, live', hpaired, hsheets⟩ := h
  exact ⟨live, live', hpaired.noteUnrecognized line line, hsheets⟩

theorem findInColumn {title : String} (htitle : title ≠ "") (value : String) :
    (t.findInColumn (t.columnOf title) value).1 =
        (s.findInColumn (s.columnOf title) value).1.movedBy p ∧
      Moved p workbook workbook' (s.findInColumn (s.columnOf title) value).2
        (t.findInColumn (t.columnOf title) value).2 := by
  obtain ⟨live, live', hpaired, hsheets⟩ := h
  obtain ⟨hcursor, hfound⟩ :=
    hpaired.findInColumn htitle (fun col _ row => hsheets.text ⟨row, col⟩) value
  exact ⟨hcursor, live, live', hfound, hsheets⟩

end

/-- On sheets with the same cells a find comes to the same. -/
theorem find (h : Moved (.refl _) workbook workbook' s t) (mode : FindMode) (value : String) :
    (t.find mode value).1 = (s.find mode value).1 ∧
      Moved (.refl _) workbook workbook' (s.find mode value).2 (t.find mode value).2 := by
  obtain ⟨live, live', hpaired, hsheets⟩ := h
  have hcol (row : UInt32) : Document.lastUsedCol t.doc t.sheet row =
      Document.lastUsedCol s.doc s.sheet row := by
    rw [hpaired.left.lastUsedCol, hpaired.right.lastUsedCol, Sheet.lastUsedCol, Sheet.lastUsedCol,
      Sheet.moved_refl_iff.1 hsheets]
  have htext (pos : Coord) : Document.text t.doc t.sheet pos = Document.text s.doc s.sheet pos := by
    rw [hpaired.left.text, hpaired.right.text]
    exact hsheets.text pos
  have hhit : Document.findInSheet t.doc t.sheet t.lastRow (.ofMode mode value) =
      (Document.findInSheet s.doc s.sheet s.lastRow (.ofMode mode value)).map
        (·.movedBy (.refl _)) := by
    rw [Document.findInSheet_congr hcol htext, hpaired.lastRow]
    exact Option.map_id'.symm
  obtain ⟨hcursor, hfound⟩ := hpaired.found hhit value
  rw [Cursor.movedBy_refl] at hcursor
  exact ⟨hcursor, live, live', hfound, hsheets⟩

/-! ## Commands on moved sheets -/

/-- A command keeps sessions on moved sheets. Those that do not address columns by title do so where
nothing is moved. -/
theorem dispatch (h : Moved p workbook workbook' s t) {state : ScriptState}
    (hactive : state.active ≠ .fill "") {command : Command} (hnamed : command.Named)
    (hcommand : p = .refl _ ∨ command.IsTitle) :
    (FillScript.dispatch (state.movedBy p) t command).1 =
        (FillScript.dispatch state s command).1.movedBy p ∧
      Moved p workbook workbook' (FillScript.dispatch state s command).2
        (FillScript.dispatch (state.movedBy p) t command).2 := by
  have hwithCol {title : String} (htitle : title ≠ "") :
      ((state.movedBy p).cursor.withCol (t.columnOf title)).coord? =
        (state.cursor.withCol (s.columnOf title)).coord?.map (·.movedBy p) := by
    obtain ⟨live, live', hpaired, -⟩ := h
    exact hpaired.coord?_withCol rfl htitle
  cases command with
  | comment => exact ⟨rfl, h⟩
  | titleAssign title value =>
    have htitle : title ≠ "" := fun heq => hnamed value (heq ▸ rfl)
    have hfill : t.isFillable title = s.isFillable title := by
      obtain ⟨live, live', hpaired, -⟩ := h
      exact hpaired.isFillable title
    simp only [FillScript.dispatch, hfill]
    by_cases hs : s.isFillable title = true
    · rw [if_pos hs, if_pos hs]
      exact ⟨rfl, h.write (hwithCol htitle) value⟩
    · rw [if_neg hs, if_neg hs]
      obtain ⟨hcursor, hsessions⟩ := h.findInColumn htitle value
      exact ⟨by simp only [hcursor]; rfl, hsessions⟩
  | rawFind mode value =>
    obtain rfl | htitle := hcommand
    · obtain ⟨hcursor, hsessions⟩ := h.find mode value
      simp only [ScriptState.movedBy_refl, FillScript.dispatch, hcursor, true_and]
      exact hsessions
    · contradiction
  | move direction value =>
    obtain rfl | htitle := hcommand
    · simp only [ScriptState.movedBy_refl]
      exact ⟨rfl, h.write Option.map_id'.symm value⟩
    · contradiction
  | continuation text =>
    rw [state_dispatch_continuation, state_dispatch_continuation]
    refine ⟨rfl, ?_⟩
    obtain ⟨cursor, active⟩ := state
    cases active with
    | idle => exact h.report _ _
    | fill title => exact h.append (hwithCol fun heq => hactive (heq ▸ rfl)) text
    | move direction => exact h.append (cursor.coord?_movedBy p) text
  | badMove line => exact ⟨rfl, h.noteUnrecognized line⟩
  | unrecognized line => exact ⟨rfl, h.noteUnrecognized line⟩

/-- Commands keep sessions on moved sheets. -/
theorem dispatchAll (h : Moved p workbook workbook' s t) {state : ScriptState}
    (hactive : state.active ≠ .fill "") {commands : List Command}
    (hnamed : ∀ command ∈ commands, command.Named)
    (hcommands : p = .refl _ ∨ ∀ command ∈ commands, command.IsTitle) :
    Moved p workbook workbook' (FillScript.dispatchAll state s commands).2
      (FillScript.dispatchAll (state.movedBy p) t commands).2 := by
  induction commands generalizing state s t with
  | nil => exact h
  | cons command commands ih =>
    have hcommand := hnamed command List.mem_cons_self
    obtain ⟨hstate, hsessions⟩ := h.dispatch hactive hcommand
      (hcommands.imp_right fun hall => hall command List.mem_cons_self)
    rw [dispatchAll_cons, dispatchAll_cons, hstate]
    refine ih hsessions ?_ (fun other hother => hnamed other (List.mem_cons_of_mem _ hother))
      (hcommands.imp_right fun hall other hother => hall other (List.mem_cons_of_mem _ hother))
    rw [active_dispatch]
    exact ActiveCommand.after_ne_fill_empty hactive hcommand

/-- Sessions begin on moved sheets if the columns of titles are moved too. -/
theorem start {name name' : String} {sheet other : Sheet}
    (hsheet : workbook.sheet? name = some sheet) (hother : workbook'.sheet? name' = some other)
    (hmoved : sheet.Moved p other)
    (hcolumns : ∀ title, title ≠ "" → ∀ col, Document.IsTitleCol workbook' name' title (p col) ↔
      Document.IsTitleCol workbook name title col) (fillColumns : List String) :
    Moved p workbook workbook' (.start workbook name fillColumns)
      (.start workbook' name' fillColumns) := by
  refine ⟨sheet, other, ⟨.start hsheet _, .start hother _, rfl, ?_, ?_, rfl⟩, hmoved⟩
  · show Document.lastUsedRow workbook' name' = Document.lastUsedRow workbook name
    rw [Workbook.lastUsedRow_of_sheet? hother, Workbook.lastUsedRow_of_sheet? hsheet,
      hmoved.lastUsedRow]
  · intro title htitle
    refine Option.ext fun col => ?_
    obtain ⟨origin, rfl⟩ := p.surjective col
    rw [Session.word?_columnOf_eq_some_iff rfl, hcolumns title htitle,
      ← Session.word?_columnOf_eq_some_iff (s := .start workbook name fillColumns) rfl,
      Option.map_eq_some_iff]
    constructor
    · intro hcol
      exact ⟨origin, hcol, rfl⟩
    · intro ⟨col, hcol, hsame⟩
      rw [← p.injective hsame]
      exact hcol

end Moved

end Session

/-! ## Columns of titles on moved sheets -/

namespace Workbook

variable {workbook workbook' : Workbook} {name name' : String} {sheet other : Sheet}
  (hsheet : workbook.sheet? name = some sheet)
include hsheet

/-- Where titles are distinct, the column of a title is the one with this text in row 0. -/
theorem isTitleCol_iff (hdistinct : sheet.DistinctTitles) {title : String} (htitle : title ≠ "")
    {col : UInt32} :
    Document.IsTitleCol workbook name title col ↔ sheet.text ⟨0, col⟩ = title := by
  rw [Document.IsTitleCol, header_of_sheet? hsheet, Sheet.getElem?_header_eq_some_iff htitle]
  refine and_iff_left_of_imp fun hcol earlier hlt hsame => ?_
  rw [Sheet.getElem?_header_eq_some_iff htitle] at hsame
  have heq : earlier = col := by
    refine hdistinct (hsame.trans hcol.symm) ?_
    rw [hsame]
    exact htitle
  rw [heq] at hlt
  exact UInt32.lt_irrefl col hlt

variable (hother : workbook'.sheet? name' = some other)
include hother

theorem isTitleCol_of_moved {p : Equiv.Perm UInt32} (hmoved : sheet.Moved p other)
    (hdistinct : sheet.DistinctTitles) {title : String} (htitle : title ≠ "") (col : UInt32) :
    Document.IsTitleCol workbook' name' title (p col) ↔
      Document.IsTitleCol workbook name title col := by
  rw [isTitleCol_iff hsheet hdistinct htitle,
    isTitleCol_iff hother (hmoved.distinctTitles hdistinct) htitle]
  rw [← hmoved.text ⟨0, col⟩]
  rfl

theorem isTitleCol_of_moved_refl (hmoved : sheet.Moved (.refl _) other) (title : String)
    (col : UInt32) :
    Document.IsTitleCol workbook' name' title col ↔
      Document.IsTitleCol workbook name title col := by
  have hheader : other.header = sheet.header :=
    Sheet.header_congr fun col => hmoved.value ⟨0, col⟩
  rw [Document.IsTitleCol, Document.IsTitleCol, header_of_sheet? hsheet, header_of_sheet? hother,
    hheader]

end Workbook

/-! ## Scripts on moved sheets -/

namespace Template

/-- The lines for a sheet keep sessions on moved sheets, if columns are addressed by title or if
nothing is moved. -/
theorem moved_runSheet {template : Template} {p : Equiv.Perm UInt32}
    (hmode : p = .refl _ ∨ template.useTitle = true) {workbook workbook' : Workbook}
    {name name' : String}
    (hstart : Session.Moved p workbook workbook' (.start workbook name template.fillColumns)
      (.start workbook' name' template.fillColumns)) (lines : List String) :
    Session.Moved p workbook workbook' (template.runSheet workbook name lines)
      (template.runSheet workbook' name' lines) := by
  have hnamed : ∀ command ∈ lines.map (Command.ofLine template.useTitle), command.Named := by
    intro command hcommand
    obtain ⟨line, -, rfl⟩ := List.mem_map.1 hcommand
    exact Command.named_ofLine _ line
  have hcommands : p = .refl _ ∨
      ∀ command ∈ lines.map (Command.ofLine template.useTitle), command.IsTitle := by
    refine hmode.imp_right fun htemplate command hcommand => ?_
    obtain ⟨line, -, rfl⟩ := List.mem_map.1 hcommand
    rw [htemplate]
    exact Command.isTitle_ofLine line
  have hlost : ScriptState.start.movedBy p = .start :=
    congrArg (ScriptState.mk · .idle) (Cursor.ofHit_movedBy p none).symm
  have hactive : ScriptState.start.active ≠ .fill "" := ActiveCommand.noConfusion
  have hrun := hstart.dispatchAll hactive hnamed hcommands
  rw [hlost] at hrun
  exact hrun

end Template

/-- Where no two columns have the same title, a script that addresses columns by title counts the
same on a sheet with its columns in another order, and leaves the same cells, in that order. -/
theorem runSheet_movedBy {template : Template} (htemplate : template.useTitle = true)
    (p : Equiv.Perm UInt32) {workbook workbook' : Workbook} {name : String} {sheet : Sheet}
    (hsheet : workbook.sheet? name = some sheet)
    (hmoved : workbook'.sheet? name = some (sheet.movedBy p))
    (hdistinct : sheet.DistinctTitles) (lines : List String) :
    (template.runSheet workbook' name lines).stats =
        (template.runSheet workbook name lines).stats ∧
      ∃ final, (template.runSheet workbook name lines).doc.sheet? name = some final ∧
        (template.runSheet workbook' name lines).doc.sheet? name = some (final.movedBy p) := by
  have hsheets := sheet.moved_movedBy p
  have hstart : Session.Moved p workbook workbook'
      (.start workbook name template.fillColumns) (.start workbook' name template.fillColumns) :=
    .start hsheet hmoved hsheets (fun title htitle =>
      Workbook.isTitleCol_of_moved hsheet hmoved hsheets hdistinct htitle) _
  obtain ⟨live, live', hpaired, hlives⟩ := Template.moved_runSheet (.inr htemplate) hstart lines
  have hname : (template.runSheet workbook name lines).sheet = name :=
    template.sheet_replay workbook name lines
  have hname' : (template.runSheet workbook' name lines).sheet = name :=
    template.sheet_replay workbook' name lines
  have hlive := hpaired.left.sheet?
  have hlive' := hpaired.right.sheet?
  rw [hname] at hlive
  rw [hname'] at hlive'
  have heq : live' = live.movedBy p := by
    refine hlives.eq_movedBy ?_
    rw [hpaired.right.name, hpaired.left.name, hname, hname']
  exact ⟨hpaired.stats, live, hlive, heq ▸ hlive'⟩

/-- Berths of a harbour and when their ships are due. -/
def berths : Sheet :=
  (Sheet.withHeader "Berths" ["Ship", "Due"]).setText ⟨1, 0⟩ "Aurora"

theorem distinctTitles_berths : berths.DistinctTitles := by
  have htitled (col : UInt32) (htext : berths.text ⟨0, col⟩ ≠ "") : col = 0 ∨ col = 1 := by
    obtain ⟨cell, hstored, -⟩ := Sheet.uses_iff_stored.1 (Sheet.uses_of_text_ne_empty htext)
    have hmem := Sparse.mem_entries_iff.2 hstored
    have hentries : berths.cells.entries = [(⟨0, 0⟩, ⟨.text "Ship", .plain⟩),
        (⟨0, 1⟩, ⟨.text "Due", .plain⟩), (⟨1, 0⟩, ⟨.text "Aurora", .plain⟩)] := by decide
    rw [hentries] at hmem
    simp only [List.mem_cons, Prod.mk.injEq, Coord.mk.injEq, List.not_mem_nil, or_false] at hmem
    rcases hmem with ⟨⟨-, hcol⟩, -⟩ | ⟨⟨-, hcol⟩, -⟩ | ⟨⟨hrow, -⟩, -⟩
    · exact .inl hcol
    · exact .inr hcol
    · exact absurd hrow (by decide)
  intro a b hsame hne
  have hne' : berths.text ⟨0, b⟩ ≠ "" := hsame ▸ hne
  rcases htitled a hne with rfl | rfl
  · rcases htitled b hne' with rfl | rfl
    · rfl
    · exact absurd hsame (by decide)
  · rcases htitled b hne' with rfl | rfl
    · exact absurd hsame (by decide)
    · rfl

/-- A script that fills in when ships are due. -/
def dueScript : Template :=
  ⟨.empty, .empty, true, [], ["Due"], .empty⟩

theorem runSheet_movedBy_berths :
    dueScript.useTitle = true ∧
      (Workbook.mk "Harbour" [berths]).sheet? "Berths" = some berths ∧
      (Workbook.mk "Harbour" [berths.movedBy (Equiv.swap 0 1)]).sheet? "Berths" =
        some (berths.movedBy (Equiv.swap 0 1)) ∧
      berths.DistinctTitles ∧
      (dueScript.runSheet (Workbook.mk "Harbour" [berths.movedBy (Equiv.swap 0 1)]) "Berths"
        ["Ship: aurora", "Due: noon", "sharp"]).stats.appends = 1 ∧
      ∃ final : Sheet, final.text ⟨1, 1⟩ = "noon\nsharp" ∧
        (dueScript.runSheet (Workbook.mk "Harbour" [berths.movedBy (Equiv.swap 0 1)]) "Berths"
          ["Ship: aurora", "Due: noon", "sharp"]).doc.sheet? "Berths" =
            some (final.movedBy (Equiv.swap 0 1)) := by
  have htemplate : dueScript.useTitle = true := rfl
  have hsheet : (Workbook.mk "Harbour" [berths]).sheet? "Berths" = some berths := rfl
  have hmoved : (Workbook.mk "Harbour" [berths.movedBy (Equiv.swap 0 1)]).sheet? "Berths" =
      some (berths.movedBy (Equiv.swap 0 1)) := rfl
  obtain ⟨hstats, final, hfinal, hfinal'⟩ := runSheet_movedBy htemplate (Equiv.swap 0 1) hsheet
    hmoved distinctTitles_berths ["Ship: aurora", "Due: noon", "sharp"]
  refine ⟨htemplate, hsheet, hmoved, distinctTitles_berths, ?_, final, ?_, hfinal'⟩
  · rw [hstats]
    decide
  · rw [← Workbook.text_of_sheet? hfinal]
    decide

end FillScript
