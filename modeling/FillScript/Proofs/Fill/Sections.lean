import FillScript.Proofs.Fill.ColumnOrder
import Mathlib.Algebra.BigOperators.Group.List.Basic
import Mathlib.Data.List.Nodup

/-!
# The sections of a template

A section starts afresh and works on the sheet of its name, so that what becomes of the cells of
this sheet, and what is counted meanwhile, is told by the cells alone (`filledCells`,
`Template.runSheet_of_sheet?`). A section thus changes one sheet of the document
(`Template.doc_runSection`), and sections of different names change different sheets. From this the
document that all sections leave (`Template.fillSheets`) and what is reported then
(`Template.report_runSections`) are read off, whatever the order of the sections (`run_sections`).
-/

namespace FillScript

/-! ## Adding counts -/

namespace Stats

theorem add_def (s t : Stats) : s + t = add s t := rfl

instance : Zero Stats := ⟨zero⟩

theorem zero_def : (0 : Stats) = zero := rfl

instance : AddCommMonoid Stats where
  zero_add s := by simp only [add_def, zero_def, add, zero, Nat.zero_add]
  add_zero s := by simp only [add_def, zero_def, add, zero, Nat.add_zero]
  add_assoc r s t := by simp only [add_def, add, Nat.add_assoc]
  add_comm s t := by simp only [add_def, add, Nat.add_comm]
  nsmul := nsmulRec

end Stats

/-! ## A sheet on its own -/

/-- A workbook without a name, of one sheet without a name. -/
def Workbook.ofCells (cells : Sparse Coord Cell) : Workbook :=
  ⟨"", [⟨"", cells⟩]⟩

/-- What becomes of the cells of a sheet when lines are carried out on it, and what is counted. -/
def filledCells (useTitle : Bool) (fillColumns : List String) (lines : List String)
    (cells : Sparse Coord Cell) : Sparse Coord Cell × Stats :=
  let s := { Template.empty with useTitle, fillColumns }.runSheet (Workbook.ofCells cells) "" lines
  (((s.doc.sheet? "").map (·.cells)).getD .empty, s.stats)

namespace Template

/-- The sheet after lines were carried out on it. -/
def fillSheet (template : Template) (lines : List String) (sheet : Sheet) : Sheet where
  name := sheet.name
  cells := (filledCells template.useTitle template.fillColumns lines sheet.cells).1

theorem name_fillSheet {template : Template} {name : String} (lines : List String) (sheet : Sheet)
    (hname : sheet.name = name) : (template.fillSheet lines sheet).name = name := hname

variable (template : Template)

/-- Lines for a sheet do to it what they do to its cells alone, whatever document it is in. -/
theorem runSheet_of_sheet? {workbook : Workbook} {name : String} {sheet : Sheet}
    (hsheet : workbook.sheet? name = some sheet) (lines : List String) :
    (template.runSheet workbook name lines).doc =
        workbook.withSheet name (template.fillSheet lines sheet) ∧
      (template.runSheet workbook name lines).stats =
        (filledCells template.useTitle template.fillColumns lines sheet.cells).2 := by
  have halone : (Workbook.ofCells sheet.cells).sheet? "" = some ⟨"", sheet.cells⟩ := rfl
  have hsame : sheet.Moved (.refl _) ⟨"", sheet.cells⟩ := Sheet.moved_refl_iff.2 rfl
  have hstart := Session.Moved.start hsheet halone hsame
    (fun title _ => Workbook.isTitleCol_of_moved_refl hsheet halone hsame title)
    template.fillColumns
  obtain ⟨live, live', hpaired, hlives⟩ := moved_runSheet (.inl rfl) hstart lines
  have hname : (template.runSheet workbook name lines).sheet = name :=
    template.sheet_replay workbook name lines
  have hfilled : filledCells template.useTitle template.fillColumns lines sheet.cells =
      (live.cells, (template.runSheet workbook name lines).stats) := by
    have hlive' := hpaired.right.sheet?
    have hname' : (template.runSheet (Workbook.ofCells sheet.cells) "" lines).sheet = "" :=
      template.sheet_replay _ "" lines
    rw [hname'] at hlive'
    show (Option.getD (((template.runSheet (Workbook.ofCells sheet.cells) "" lines).doc.sheet?
      "").map (·.cells)) .empty, Session.stats _) = _
    rw [hlive', Option.map_some, Option.getD_some, Sheet.moved_refl_iff.1 hlives]
    exact congrArg (live.cells, ·) hpaired.stats
  have hlive : live = template.fillSheet lines sheet := by
    have hlivename : live.name = sheet.name := by
      rw [hpaired.left.name, hname, Workbook.name_of_sheet? hsheet]
    rw [fillSheet, hfilled, ← hlivename]
  rw [hpaired.left.doc, hname, hlive, hfilled]
  exact ⟨rfl, rfl⟩

theorem sheet?_runSheet {workbook : Workbook} {name : String} {sheet : Sheet}
    (hsheet : workbook.sheet? name = some sheet) (lines : List String) :
    (template.runSheet workbook name lines).doc.sheet? name =
      some (template.fillSheet lines sheet) := by
  rw [(template.runSheet_of_sheet? hsheet lines).1]
  exact Workbook.sheet?_withSheet hsheet
    (name_fillSheet lines sheet (Workbook.name_of_sheet? hsheet))

/-- The sheet that a session has come to is the one that its lines lead to. -/
theorem live_eq_fillSheet {workbook : Workbook} {name : String} {sheet live : Sheet}
    (hsheet : workbook.sheet? name = some sheet) {lines : List String}
    (hlive : Session.On workbook live (template.runSheet workbook name lines)) :
    live = template.fillSheet lines sheet := by
  have hfound := hlive.sheet?
  have hname : (template.runSheet workbook name lines).sheet = name :=
    template.sheet_replay workbook name lines
  rw [hname, template.sheet?_runSheet hsheet] at hfound
  exact (Option.some.inj hfound).symm

/-! ## One section -/

variable {template}

/-- A section changes the sheet of its name, if there is one. -/
theorem doc_runSection (filled : Filled Workbook) (part : Section) :
    (template.runSection filled part).doc =
      filled.doc.modifySheet part.name (template.fillSheet part.lines) := by
  unfold runSection
  by_cases hhas : Document.hasSheet filled.doc part.name = true
  · obtain ⟨sheet, hsheet⟩ := Workbook.hasSheet_iff.1 hhas
    obtain ⟨hdoc, -⟩ := template.runSheet_of_sheet? hsheet part.lines
    rw [if_pos hhas]
    exact hdoc.trans (Workbook.withSheet_eq_modifySheet hsheet _)
  · rw [if_neg hhas]
    refine (Workbook.modifySheet_eq_self fun sheet hsheet => ?_).symm
    exact absurd (Workbook.hasSheet_iff.2 ⟨sheet, hsheet⟩) hhas

/-! ## Sections one after the other -/

/-- What the sections in a list leave of a document, and what they report. -/
def runSections {δ : Type} [Document δ] (template : Template) (doc : δ) (parts : List Section) :
    Filled δ :=
  parts.foldl template.runSection ⟨doc, .empty, #[]⟩

theorem runSections_concat {δ : Type} [Document δ] (template : Template) (doc : δ)
    (parts : List Section) (part : Section) :
    template.runSections doc (parts ++ [part]) =
      template.runSection (template.runSections doc parts) part := by
  rw [runSections, List.foldl_append]
  rfl

/-- The workbook with the sheets of sections filled in. -/
def fillSheets (template : Template) (workbook : Workbook) (parts : List Section) : Workbook :=
  parts.foldl (fun doc part => doc.modifySheet part.name (template.fillSheet part.lines)) workbook

theorem fillSheets_concat (workbook : Workbook) (parts : List Section) (part : Section) :
    template.fillSheets workbook (parts ++ [part]) =
      (template.fillSheets workbook parts).modifySheet part.name
        (template.fillSheet part.lines) := by
  rw [fillSheets, List.foldl_append]
  rfl

theorem doc_runSections (workbook : Workbook) (parts : List Section) :
    (template.runSections workbook parts).doc = template.fillSheets workbook parts := by
  induction parts using List.reverseRecOn with
  | nil => rfl
  | append_singleton parts part ih => rw [runSections_concat, fillSheets_concat, doc_runSection, ih]

/-- Sections of different names may change places. -/
theorem fillSheets_perm (workbook : Workbook) {parts reordered : List Section}
    (hdistinct : (parts.map (·.name)).Nodup) (hperm : reordered.Perm parts) :
    template.fillSheets workbook reordered = template.fillSheets workbook parts := by
  refine (hperm.symm.foldl_eq' (fun part hpart other hother doc => ?_) workbook).symm
  by_cases hname : part.name = other.name
  · rw [List.inj_on_of_nodup_map hdistinct hpart hother hname]
  · exact Workbook.modifySheet_comm (name_fillSheet other.lines) doc (name_fillSheet part.lines)
      hname

theorem name_fillSheets (workbook : Workbook) (parts : List Section) :
    (template.fillSheets workbook parts).name = workbook.name := by
  induction parts using List.reverseRecOn with
  | nil => rfl
  | append_singleton parts part ih =>
    rw [fillSheets_concat]
    exact ih

theorem sheetNames_fillSheets (workbook : Workbook) (parts : List Section) :
    (template.fillSheets workbook parts).sheetNames = workbook.sheetNames := by
  induction parts using List.reverseRecOn with
  | nil => rfl
  | append_singleton parts part ih =>
    rw [fillSheets_concat, Workbook.sheetNames_modifySheet (name_fillSheet part.lines), ih]

/-- Sections leave the sheets of other names. -/
theorem sheet?_fillSheets_of_notMem (workbook : Workbook) {parts : List Section} {name : String}
    (hname : name ∉ parts.map (·.name)) :
    (template.fillSheets workbook parts).sheet? name = workbook.sheet? name := by
  induction parts using List.reverseRecOn with
  | nil => rfl
  | append_singleton parts part ih =>
    rw [List.map_append, List.mem_append, not_or] at hname
    have hne : name ≠ part.name := fun heq => hname.2 (heq ▸ List.mem_cons_self)
    rw [fillSheets_concat, Workbook.sheet?_modifySheet_of_ne (name_fillSheet part.lines) _ hne,
      ih hname.1]

/-- A section is not named like one before it. -/
theorem notMem_of_nodup_append {before after : List Section} {part : Section}
    (hdistinct : ((before ++ part :: after).map (·.name)).Nodup) :
    part.name ∉ before.map (·.name) := by
  rw [List.map_append, List.nodup_append] at hdistinct
  obtain ⟨-, -, hother⟩ := hdistinct
  intro hmem
  exact hother part.name hmem part.name List.mem_cons_self rfl

/-- A section fills the sheet of its name as if it were the only section. -/
theorem sheet?_fillSheets_of_mem (workbook : Workbook) {parts : List Section}
    (hdistinct : (parts.map (·.name)).Nodup) {part : Section} (hpart : part ∈ parts) :
    (template.fillSheets workbook parts).sheet? part.name =
      (workbook.sheet? part.name).map (template.fillSheet part.lines) := by
  induction parts using List.reverseRecOn with
  | nil => contradiction
  | append_singleton parts last ih =>
    have hnot := notMem_of_nodup_append hdistinct
    rw [List.map_append] at hdistinct
    rw [fillSheets_concat]
    rcases List.mem_append.1 hpart with hmem | hlast
    · have hne : part.name ≠ last.name := fun heq => hnot (heq ▸ List.mem_map_of_mem hmem)
      rw [Workbook.sheet?_modifySheet_of_ne (name_fillSheet last.lines) _ hne,
        ih hdistinct.of_append_left hmem]
    · obtain rfl := List.mem_singleton.1 hlast
      rw [Workbook.sheet?_modifySheet (name_fillSheet part.lines),
        sheet?_fillSheets_of_notMem workbook hnot]

/-- A sheet that no section names stays as it is, and so does one that repeats a name. -/
theorem getElem?_fillSheets (workbook : Workbook) (parts : List Section) {i : Nat} {sheet : Sheet}
    (hsheet : workbook.sheets[i]? = some sheet)
    (hother : sheet.name ∉ parts.map (·.name) ∨ sheet.name ∈ workbook.sheetNames.take i) :
    (template.fillSheets workbook parts).sheets[i]? = some sheet := by
  induction parts using List.reverseRecOn with
  | nil => exact hsheet
  | append_singleton parts part ih =>
    rw [List.map_append, List.mem_append, not_or] at hother
    rw [fillSheets_concat]
    refine Workbook.getElem?_modifySheet_of_later (ih (hother.imp_left And.left)) ?_
    rw [sheetNames_fillSheets]
    exact hother.imp_left fun hnot heq => hnot.2 (heq ▸ List.mem_cons_self)

/-! ## The report of sections -/

/-- What the lines of a section count on the sheet of its name. -/
def sectionStats (template : Template) (workbook : Workbook) (part : Section) : Stats :=
  match workbook.sheet? part.name with
  | some sheet => (filledCells template.useTitle template.fillColumns part.lines sheet.cells).2
  | none => 0

/-- The report of sections, told by the document they begin with. -/
def reportOn (template : Template) (workbook : Workbook) (parts : List Section) : FillReport where
  sheetsProcessed := parts.countP fun part => part.name ∈ workbook.sheetNames
  sheetsMissing := (parts.map (·.name)).filter (· ∉ workbook.sheetNames)
  stats := (parts.map (template.sectionStats workbook)).sum
  saved := false

theorem reportOn_concat_of_mem {workbook : Workbook} (parts : List Section) {part : Section}
    (hmem : part.name ∈ workbook.sheetNames) :
    template.reportOn workbook (parts ++ [part]) =
      { template.reportOn workbook parts with
        sheetsProcessed := (template.reportOn workbook parts).sheetsProcessed + 1
        stats := (template.reportOn workbook parts).stats +
          template.sectionStats workbook part } := by
  simp [reportOn, hmem]

theorem reportOn_concat_of_notMem {workbook : Workbook} (parts : List Section) {part : Section}
    (hmem : part.name ∉ workbook.sheetNames) :
    template.reportOn workbook (parts ++ [part]) =
      { template.reportOn workbook parts with
        sheetsMissing := (template.reportOn workbook parts).sheetsMissing ++ [part.name] } := by
  have hnone : workbook.sheet? part.name = none := by
    rw [← Option.not_isSome_iff_eq_none, Option.isSome_iff_exists, ← Workbook.hasSheet_iff,
      Workbook.hasSheet_iff_mem]
    exact hmem
  have hpart : template.sectionStats workbook part = 0 := by rw [sectionStats, hnone]
  simp [reportOn, hmem, hpart]

theorem report_runSections (workbook : Workbook) {parts : List Section}
    (hdistinct : (parts.map (·.name)).Nodup) :
    (template.runSections workbook parts).report = template.reportOn workbook parts := by
  induction parts using List.reverseRecOn with
  | nil => rfl
  | append_singleton parts part ih =>
    have hnot := notMem_of_nodup_append hdistinct
    rw [List.map_append] at hdistinct
    have hparts := ih hdistinct.of_append_left
    -- the sections before this one leave its sheet
    have hsame : (template.runSections workbook parts).doc.sheet? part.name =
        workbook.sheet? part.name := by
      rw [doc_runSections, sheet?_fillSheets_of_notMem workbook hnot]
    have hhas : Document.hasSheet (template.runSections workbook parts).doc part.name = true ↔
        part.name ∈ workbook.sheetNames := by
      rw [Workbook.hasSheet_iff_mem, doc_runSections, sheetNames_fillSheets]
    rw [runSections_concat, runSection]
    by_cases hmem : part.name ∈ workbook.sheetNames
    · obtain ⟨sheet, hsheet⟩ := Workbook.hasSheet_iff.1 (Workbook.hasSheet_iff_mem.2 hmem)
      obtain ⟨-, hstats⟩ := template.runSheet_of_sheet? (hsame.trans hsheet) part.lines
      have hpart : template.sectionStats workbook part =
          (filledCells template.useTitle template.fillColumns part.lines sheet.cells).2 := by
        rw [sectionStats, hsheet]
      rw [if_pos (hhas.2 hmem), reportOn_concat_of_mem parts hmem, hparts, hpart]
      dsimp only
      rw [hstats]
    · rw [if_neg fun h => hmem (hhas.1 h), reportOn_concat_of_notMem parts hmem, hparts]

end Template

/-! ## All sections -/

/-- Outcomes that differ at most in the order of the sections without a sheet and of the log. -/
structure Filled.SameButOrder {δ : Type} (filled other : Filled δ) : Prop where
  doc : filled.doc = other.doc
  sheetsProcessed : filled.report.sheetsProcessed = other.report.sheetsProcessed
  sheetsMissing : filled.report.sheetsMissing.Perm other.report.sheetsMissing
  stats : filled.report.stats = other.report.stats

namespace Template

variable (template : Template) (workbook : Workbook)

theorem doc_run :
    (template.run workbook).doc = template.fillSheets workbook template.sections.list :=
  doc_runSections workbook _

theorem report_run :
    (template.run workbook).report = template.reportOn workbook template.sections.list :=
  report_runSections workbook template.sections.distinct

/-- The order of the sections does not matter. -/
theorem sameButOrder_of_perm {reordered : Sections}
    (hperm : reordered.list.Perm template.sections.list) :
    ({ template with sections := reordered }.run workbook).SameButOrder
      (template.run workbook) := by
  constructor
  · rw [doc_run, doc_run]
    exact template.fillSheets_perm workbook template.sections.distinct hperm
  · rw [report_run, report_run]
    exact hperm.countP_eq _
  · rw [report_run, report_run]
    exact (hperm.map (·.name)).filter _
  · rw [report_run, report_run]
    exact (hperm.map (template.sectionStats workbook)).sum_eq

/-- What is counted for a section is told by the sheet as it was at the start. -/
theorem stats_runSheet_of_append {before after : List Section} {part : Section}
    (hparts : template.sections.list = before ++ part :: after) {sheet : Sheet}
    (hsheet : workbook.sheet? part.name = some sheet) :
    (template.runSheet (template.runSections workbook before).doc part.name part.lines).stats =
      (filledCells template.useTitle template.fillColumns part.lines sheet.cells).2 := by
  have hdistinct := template.sections.distinct
  rw [hparts] at hdistinct
  have hnot := notMem_of_nodup_append hdistinct
  have hsame : (template.runSections workbook before).doc.sheet? part.name = some sheet := by
    rw [doc_runSections, sheet?_fillSheets_of_notMem workbook hnot, hsheet]
  exact (template.runSheet_of_sheet? hsame part.lines).2

end Template

/-- Sections do not depend on each other. Their order does not matter; what becomes of the sheet of
a section, and what is counted for it, is told by the cells of this sheet, the lines of the section
and how they are to be read; the other sheets stay; and the sections that have no sheet are the ones
that are reported. -/
theorem run_sections (template : Template) (workbook : Workbook) :
    (∀ reordered : Sections, reordered.list.Perm template.sections.list →
      ({ template with sections := reordered }.run workbook).SameButOrder
        (template.run workbook)) ∧
    (∀ before part after, template.sections.list = before ++ part :: after →
      ∀ sheet, workbook.sheet? part.name = some sheet →
        (template.run workbook).doc.sheet? part.name = some { sheet with
          cells :=
            (filledCells template.useTitle template.fillColumns part.lines sheet.cells).1 } ∧
        (template.runSheet (template.runSections workbook before).doc part.name part.lines).stats =
          (filledCells template.useTitle template.fillColumns part.lines sheet.cells).2) ∧
    (template.run workbook).report.stats =
      (template.sections.list.map (template.sectionStats workbook)).sum ∧
    (template.run workbook).doc.name = workbook.name ∧
    (template.run workbook).doc.sheetNames = workbook.sheetNames ∧
    (∀ i sheet, workbook.sheets[i]? = some sheet →
      sheet.name ∉ template.sections.names ∨ sheet.name ∈ workbook.sheetNames.take i →
        (template.run workbook).doc.sheets[i]? = some sheet) ∧
    (template.run workbook).report.sheetsMissing =
      template.sections.names.filter (· ∉ workbook.sheetNames) ∧
    (template.run workbook).report.sheetsProcessed +
      (template.run workbook).report.sheetsMissing.length = template.sections.list.length := by
  have hreport := template.report_run workbook
  have hdoc := template.doc_run workbook
  refine ⟨fun reordered => template.sameButOrder_of_perm workbook, ?_, ?_, ?_, ?_, ?_, ?_, ?_⟩
  · intro before part after hparts sheet hsheet
    have hpart : part ∈ template.sections.list := by
      rw [hparts]
      exact List.mem_append_right _ List.mem_cons_self
    refine ⟨?_, template.stats_runSheet_of_append workbook hparts hsheet⟩
    rw [hdoc, Template.sheet?_fillSheets_of_mem workbook template.sections.distinct hpart, hsheet]
    rfl
  · rw [hreport]
    rfl
  · rw [hdoc, Template.name_fillSheets]
  · rw [hdoc, Template.sheetNames_fillSheets]
  · intro i sheet hsheet hother
    rw [hdoc]
    exact Template.getElem?_fillSheets workbook _ hsheet hother
  · rw [hreport]
    rfl
  · rw [hreport, Template.reportOn, List.filter_map, List.length_map,
      ← List.countP_eq_length_filter,
      List.length_eq_countP_add_countP fun part => part.name ∈ workbook.sheetNames]
    simp only [decide_eq_true_eq, Function.comp_def]

/-- A harbour with a second sheet of the same name. -/
def harbour : Workbook :=
  ⟨"Harbour", [berths, .withHeader "Berths" ["Ship", "Due"]]⟩

/-- A script for the berths of a harbour and for its cranes. -/
def harbourScript : Template :=
  { dueScript with
    sections := ⟨[⟨"Berths", ["Ship: aurora", "Due: noon", "sharp"]⟩, ⟨"Cranes", ["Due: noon"]⟩],
      by decide⟩ }

theorem run_sections_harbour :
    ∃ reordered : Sections,
      reordered.list.Perm harbourScript.sections.list ∧
      ({ harbourScript with sections := reordered }.run harbour).SameButOrder
        (harbourScript.run harbour) ∧
      (harbourScript.run harbour).report.sheetsMissing = ["Cranes"] ∧
      (harbourScript.run harbour).doc.sheets[1]? = some (.withHeader "Berths" ["Ship", "Due"]) := by
  have hperm := harbourScript.sections.list.reverse_perm
  obtain ⟨hsame, -, -, -, -, hother, hmissing, -⟩ := run_sections harbourScript harbour
  refine ⟨⟨_, by decide⟩, hperm, hsame _ hperm, ?_, ?_⟩
  · rw [hmissing]
    rfl
  · exact hother 1 _ rfl (.inr (by decide))

end FillScript
