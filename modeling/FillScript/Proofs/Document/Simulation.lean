import FillScript.Proofs.Fill.Replay
import FillScript.Proofs.Fill.Search

/-!
# Documents that are filled alike

A script sees a document only through the questions of `Document` and changes it only through its
two changes. `Simulation` is a relation between documents of two kinds under which all questions
have the same answers and both changes come to the same. A simulation is kept by every part of a
session (`Session.Alike`), by every command (`Alike.dispatch`), by the lines of a sheet
(`Alike.dispatchAll`) and by whole templates (`Simulation.run`), and what is counted and reported is
the same on both sides.
-/

namespace FillScript

/-! ## Simulations -/

/-- Two changes come to the same: both lead to related documents, or both are refused for one
reason. -/
inductive SameOutcome {α β : Type} (R : α → β → Prop) :
    Except DocumentError α → Except DocumentError β → Prop where
  | ok {a : α} {b : β} (hdoc : R a b) : SameOutcome R (.ok a) (.ok b)
  | error (e : DocumentError) : SameOutcome R (.error e) (.error e)

theorem SameOutcome.ok_or_error {α β : Type} {R : α → β → Prop}
    {left : Except DocumentError α} {right : Except DocumentError β}
    (hsame : SameOutcome R left right) :
    (∃ a b, left = .ok a ∧ right = .ok b ∧ R a b) ∨ ∃ e, left = .error e ∧ right = .error e := by
  cases hsame with
  | ok hdoc => exact .inl ⟨_, _, rfl, rfl, hdoc⟩
  | error e => exact .inr ⟨e, rfl, rfl⟩

/-- Related documents answer alike and are changed alike. -/
structure Simulation {α β : Type} [Document α] [Document β] (R : α → β → Prop) : Prop where
  sheetNames {a : α} {b : β} (hdoc : R a b) : Document.sheetNames a = Document.sheetNames b
  lastUsedRow {a : α} {b : β} (hdoc : R a b) (sheet : String) :
    Document.lastUsedRow a sheet = Document.lastUsedRow b sheet
  lastUsedCol {a : α} {b : β} (hdoc : R a b) (sheet : String) (row : UInt32) :
    Document.lastUsedCol a sheet row = Document.lastUsedCol b sheet row
  text {a : α} {b : β} (hdoc : R a b) (sheet : String) (pos : Coord) :
    Document.text a sheet pos = Document.text b sheet pos
  header {a : α} {b : β} (hdoc : R a b) (sheet : String) :
    Document.header a sheet = Document.header b sheet
  setText {a : α} {b : β} (hdoc : R a b) (sheet : String) (pos : Coord) (text : String)
    (request : CellFormat) :
    SameOutcome R (Document.setText a sheet pos text request)
      (Document.setText b sheet pos text request)
  applyFormat {a : α} {b : β} (hdoc : R a b) (sheet : String) (pos : Coord)
    (request : CellFormat) :
    SameOutcome R (Document.applyFormat a sheet pos request)
      (Document.applyFormat b sheet pos request)

section

variable {α β : Type} [Document α] [Document β] {R : α → β → Prop} (hR : Simulation R)
include hR

/-! ## Searches -/

namespace Simulation

variable {a : α} {b : β} (hdoc : R a b)
include hdoc

theorem hasSheet (sheet : String) : Document.hasSheet a sheet = Document.hasSheet b sheet := by
  rw [Document.hasSheet, Document.hasSheet, hR.sheetNames hdoc]

theorem findInColumn (sheet : String) (col : UInt32) (lastRow : Option UInt32)
    (matcher : Matcher) :
    Document.findInColumn a sheet col lastRow matcher =
      Document.findInColumn b sheet col lastRow matcher := by
  simp only [Document.findInColumn, hR.text hdoc]

theorem findInSheet (sheet : String) (lastRow : Option UInt32) (matcher : Matcher) :
    Document.findInSheet a sheet lastRow matcher =
      Document.findInSheet b sheet lastRow matcher :=
  Document.findInSheet_congr (hR.lastUsedCol hdoc sheet) (hR.text hdoc sheet) lastRow matcher

end Simulation

end

/-! ## Sessions -/

/-- Sessions on related documents that agree in everything else. -/
structure Session.Alike {α β : Type} (R : α → β → Prop) (s : Session α) (t : Session β) :
    Prop where
  doc : R s.doc t.doc
  sheet : s.sheet = t.sheet
  fillColumns : s.fillColumns = t.fillColumns
  header : s.header = t.header
  lastRow : s.lastRow = t.lastRow
  stats : s.stats = t.stats
  log : s.log = t.log

namespace Session.Alike

section

variable {α β : Type} {R : α → β → Prop} {s : Session α} {t : Session β}

theorem report (h : Alike R s t) {left right : Event} (hevent : left = right) :
    Alike R (s.report left) (t.report right) where
  doc := h.doc
  sheet := h.sheet
  fillColumns := h.fillColumns
  header := h.header
  lastRow := h.lastRow
  stats := h.stats
  log := by simp only [Session.report, h.log, hevent]

/-- Sessions stay alike when the same is counted on both sides. -/
theorem count (h : Alike R s t) (f : Stats → Stats) :
    Alike R { s with stats := f s.stats } { t with stats := f t.stats } where
  doc := h.doc
  sheet := h.sheet
  fillColumns := h.fillColumns
  header := h.header
  lastRow := h.lastRow
  stats := congrArg f h.stats
  log := h.log

/-- Sessions stay alike when their documents are replaced by related ones. -/
theorem replace (h : Alike R s t) {a : α} {b : β} (hdoc : R a b) :
    Alike R { s with doc := a } { t with doc := b } where
  doc := hdoc
  sheet := h.sheet
  fillColumns := h.fillColumns
  header := h.header
  lastRow := h.lastRow
  stats := h.stats
  log := h.log

theorem isFillable (h : Alike R s t) (title : String) :
    s.isFillable title = t.isFillable title := by
  rw [Session.isFillable, Session.isFillable, h.fillColumns]

theorem columnOf (h : Alike R s t) (title : String) : s.columnOf title = t.columnOf title := by
  rw [Session.columnOf, Session.columnOf, h.header]

theorem noteUnrecognized (h : Alike R s t) (line : String) :
    Alike R (s.noteUnrecognized line) (t.noteUnrecognized line) :=
  (h.count fun stats => { stats with unrecognized := stats.unrecognized + 1 }).report
    (by rw [h.sheet])

theorem skip (h : Alike R s t) (c : Cursor) (value : String) :
    Alike R (s.skip c value) (t.skip c value) :=
  (h.count fun stats => { stats with skippedWrites := stats.skippedWrites + 1 }).report
    (by rw [h.sheet])

/-- After searches with one hit the cursors are the same. -/
theorem found (h : Alike R s t) (hit : Option Coord) (value : String) :
    (s.found hit value).1 = (t.found hit value).1 ∧
      Alike R (s.found hit value).2 (t.found hit value).2 := by
  cases hit with
  | none =>
    refine ⟨rfl, ?_⟩
    exact (h.count fun stats => { stats with findsMissed := stats.findsMissed + 1 }).report
      (by rw [h.sheet])
  | some pos =>
    refine ⟨rfl, ?_⟩
    exact (h.count fun stats => { stats with findsHit := stats.findsHit + 1 }).report
      (by rw [h.sheet])

end

variable {α β : Type} [Document α] [Document β] {R : α → β → Prop} (hR : Simulation R)
  {s : Session α} {t : Session β}
include hR

theorem start {a : α} {b : β} (hdoc : R a b) (sheet : String) (fillColumns : List String) :
    Alike R (.start a sheet fillColumns) (.start b sheet fillColumns) where
  doc := hdoc
  sheet := rfl
  fillColumns := rfl
  header := hR.header hdoc sheet
  lastRow := hR.lastUsedRow hdoc sheet
  stats := rfl
  log := rfl

theorem findInColumn (h : Alike R s t) (col : Int) (value : String) :
    (s.findInColumn col value).1 = (t.findInColumn col value).1 ∧
      Alike R (s.findInColumn col value).2 (t.findInColumn col value).2 := by
  simp only [Session.findInColumn, hR.findInColumn h.doc, h.sheet, h.lastRow]
  exact h.found _ value

theorem find (h : Alike R s t) (mode : FindMode) (value : String) :
    (s.find mode value).1 = (t.find mode value).1 ∧
      Alike R (s.find mode value).2 (t.find mode value).2 := by
  simp only [Session.find, hR.findInSheet h.doc, h.sheet, h.lastRow]
  exact h.found _ value

theorem stored (h : Alike R s t) (pos : Coord) (value : String) :
    SameOutcome R (s.stored pos value) (t.stored pos value) := by
  simp only [Session.stored, h.sheet]
  split
  · exact hR.applyFormat h.doc _ _ _
  · exact hR.setText h.doc _ _ _ _

theorem write (h : Alike R s t) (c : Cursor) (value : String) :
    Alike R (s.write c value) (t.write c value) := by
  simp only [Session.write]
  cases c.coord? with
  | none => exact h.skip c value
  | some pos =>
    dsimp only
    rcases (h.stored hR pos value).ok_or_error with ⟨a, b, hs, ht, hdoc⟩ | ⟨e, hs, ht⟩
    · rw [hs, ht]
      have hcount := (h.replace hdoc).count fun stats => { stats with writes := stats.writes + 1 }
      refine hcount.report ?_
      rw [h.sheet]
    · rw [hs, ht]
      refine h.report ?_
      rw [h.sheet]

theorem append (h : Alike R s t) (c : Cursor) (line : String) :
    Alike R (s.append c line) (t.append c line) := by
  simp only [Session.append]
  cases c.coord? with
  | none => exact h.skip c line
  | some pos =>
    dsimp only
    have hsame : SameOutcome R
        (Document.setText s.doc s.sheet pos
          (Session.appendedText (Document.text s.doc s.sheet pos) line) .styleHint)
        (Document.setText t.doc t.sheet pos
          (Session.appendedText (Document.text t.doc t.sheet pos) line) .styleHint) := by
      rw [h.sheet, hR.text h.doc]
      exact hR.setText h.doc _ _ _ _
    rcases hsame.ok_or_error with ⟨a, b, hs, ht, hdoc⟩ | ⟨e, hs, ht⟩
    · rw [hs, ht]
      have hcount := (h.replace hdoc).count fun stats => { stats with appends := stats.appends + 1 }
      refine hcount.report ?_
      rw [h.sheet]
    · rw [hs, ht]
      refine h.report ?_
      rw [h.sheet]

/-! ## Commands -/

/-- A command leads to one state on both sides. -/
theorem dispatch (h : Alike R s t) (state : ScriptState) (command : Command) :
    (FillScript.dispatch state s command).1 = (FillScript.dispatch state t command).1 ∧
      Alike R (FillScript.dispatch state s command).2 (FillScript.dispatch state t command).2 := by
  cases command with
  | comment => exact ⟨rfl, h⟩
  | titleAssign title value =>
    simp only [FillScript.dispatch, h.isFillable, h.columnOf]
    by_cases hfill : t.isFillable title = true
    · rw [if_pos hfill, if_pos hfill]
      exact ⟨rfl, h.write hR _ _⟩
    · rw [if_neg hfill, if_neg hfill]
      obtain ⟨hcursor, hsessions⟩ := h.findInColumn hR (t.columnOf title) value
      exact ⟨by simp only [hcursor], hsessions⟩
  | rawFind mode value =>
    obtain ⟨hcursor, hsessions⟩ := h.find hR mode value
    exact ⟨by simp only [FillScript.dispatch, hcursor], hsessions⟩
  | move direction value => exact ⟨rfl, h.write hR _ _⟩
  | continuation text =>
    simp only [FillScript.dispatch]
    cases state.active with
    | idle => exact ⟨rfl, h.report (by rw [h.sheet])⟩
    | fill title =>
      dsimp only
      rw [h.columnOf]
      exact ⟨rfl, h.append hR _ _⟩
    | move direction => exact ⟨rfl, h.append hR _ _⟩
  | badMove line => exact ⟨rfl, h.noteUnrecognized line⟩
  | unrecognized line => exact ⟨rfl, h.noteUnrecognized line⟩

/-- The commands of a sheet lead to one state on both sides. -/
theorem dispatchAll (h : Alike R s t) (state : ScriptState) (commands : List Command) :
    (FillScript.dispatchAll state s commands).1 = (FillScript.dispatchAll state t commands).1 ∧
      Alike R (FillScript.dispatchAll state s commands).2
        (FillScript.dispatchAll state t commands).2 := by
  induction commands generalizing state s t with
  | nil => exact ⟨rfl, h⟩
  | cons command commands ih =>
    obtain ⟨hstate, hsessions⟩ := h.dispatch hR state command
    rw [dispatchAll_cons, dispatchAll_cons, hstate]
    exact ih hsessions _

end Session.Alike

/-! ## Templates -/

namespace Simulation

variable {α β : Type} [Document α] [Document β] {R : α → β → Prop} (hR : Simulation R)
include hR

/-- The lines for a sheet leave sessions that are alike. -/
theorem runSheet {a : α} {b : β} (hdoc : R a b) (template : Template) (sheet : String)
    (lines : List String) :
    Session.Alike R (template.runSheet a sheet lines) (template.runSheet b sheet lines) :=
  ((Session.Alike.start hR hdoc sheet template.fillColumns).dispatchAll hR .start _).2

/-- Carrying out a section keeps documents related and what happened the same. -/
theorem runSection {x : Filled α} {y : Filled β} (hdoc : R x.doc y.doc)
    (hreport : x.report = y.report) (hlog : x.log = y.log) (template : Template)
    (part : Section) :
    R (template.runSection x part).doc (template.runSection y part).doc ∧
      (template.runSection x part).report = (template.runSection y part).report ∧
      (template.runSection x part).log = (template.runSection y part).log := by
  have hsheet := hR.hasSheet hdoc part.name
  unfold Template.runSection
  by_cases hhas : Document.hasSheet x.doc part.name = true
  · rw [if_pos hhas, if_pos (hsheet ▸ hhas)]
    have hsessions := hR.runSheet hdoc template part.name part.lines
    refine ⟨hsessions.doc, ?_, ?_⟩
    · simp only [hreport, hsessions.stats]
    · simp only [hlog, hsessions.log]
  · rw [if_neg hhas, if_neg (hsheet ▸ hhas)]
    exact ⟨hdoc, by simp only [hreport], by simp only [hlog]⟩

/-- Templates leave related documents related, and the same happens on both sides. -/
theorem run {a : α} {b : β} (hdoc : R a b) (template : Template) :
    R (template.run a).doc (template.run b).doc ∧
      (template.run a).report = (template.run b).report ∧
      (template.run a).log = (template.run b).log := by
  -- the sections are carried out on what the ones before them left
  suffices hall : ∀ (parts : List Section) (x : Filled α) (y : Filled β), R x.doc y.doc →
      x.report = y.report → x.log = y.log →
      R (parts.foldl template.runSection x).doc (parts.foldl template.runSection y).doc ∧
        (parts.foldl template.runSection x).report = (parts.foldl template.runSection y).report ∧
        (parts.foldl template.runSection x).log = (parts.foldl template.runSection y).log from
    hall template.sections.list ⟨a, .empty, #[]⟩ ⟨b, .empty, #[]⟩ hdoc rfl rfl
  intro parts
  induction parts with
  | nil => intro x y hx hreport hlog; exact ⟨hx, hreport, hlog⟩
  | cons part parts ih =>
    intro x y hx hreport hlog
    obtain ⟨hx', hreport', hlog'⟩ := hR.runSection hx hreport hlog template part
    exact ih _ _ hx' hreport' hlog'

end Simulation

end FillScript
