import FillScript.Proofs.Fill.Batch
import FillScript.Proofs.Fill.Rewriting
import FillScript.Proofs.Sheet.Codec

/-!
# Saved workbooks are the filled ones

What a script makes of a cell comes back from its stored form: a cell that was filled or added to
has the style that it was asked for, so that it is not empty, and the numbers in a filled workbook
were there before (`Cell.Rewrite.comesBack`). A workbook that was read has no empty cells, and so a
filled one is read as it was stored (`Workbook.ComesBack.ofText_eq_ok`). With files read as they
were written, the workbook that is opened where a script saved it is the filled one
(`fillFile_saved`).
-/

namespace FillScript

/-! ## Cells that come back -/

/-- Whether a cell comes back from the stored form of its sheet. -/
def Cell.ComesBack (cell : Cell) : Prop :=
  cell.isEmpty = false ∧ cell.value.ReadsBack

theorem CellValue.readsBack_of_ne {value : CellValue} (hvalue : ∀ x, value ≠ .number x) :
    value.ReadsBack :=
  fun x hx => absurd hx (hvalue x)

theorem CellValue.readsBack_ofText (s : String) : (CellValue.ofText s).ReadsBack := by
  refine readsBack_of_ne fun x => ?_
  unfold ofText
  split <;> simp

/-- The value of a stored cell reads back if the cell does; where none is stored there is none. -/
theorem Cell.readsBack_getD {stored : Option Cell}
    (hstored : ∀ cell, stored = some cell → cell.ComesBack) :
    (stored.getD .blank).value.ReadsBack := by
  cases stored with
  | none => exact CellValue.readsBack_of_ne (by simp [blank])
  | some cell => exact (hstored cell rfl).2

/-- A cell that was filled or added to comes back. -/
theorem Cell.Rewrite.comesBack {stored after : Option Cell} (h : Rewrite stored after)
    (hstored : ∀ cell, stored = some cell → cell.ComesBack) :
    ∀ cell, after = some cell → cell.ComesBack := by
  rintro cell hcell
  cases h with
  | filled value =>
    obtain rfl := Option.some.inj hcell
    refine ⟨Cell.isEmpty_styled _ _, ?_⟩
    rw [Cell.filled]
    dsimp only
    split
    · exact readsBack_getD hstored
    · exact CellValue.readsBack_of_ne (by simp)
  | extended line =>
    obtain rfl := Option.some.inj hcell
    exact ⟨Cell.isEmpty_styled _ _, CellValue.readsBack_ofText _⟩

theorem Cell.Rewritten.comesBack {stored after : Option Cell} (h : Rewritten stored after)
    (hstored : ∀ cell, stored = some cell → cell.ComesBack) :
    ∀ cell, after = some cell → cell.ComesBack := by
  induction h with
  | refl => exact hstored
  | tail _ hstep ih => exact hstep.comesBack ih

/-! ## Workbooks that come back -/

namespace Workbook

/-- Whether every cell of a workbook comes back from the stored form. -/
def ComesBack (workbook : Workbook) : Prop :=
  ∀ sheet ∈ workbook.sheets, ∀ pos cell, sheet.cell? pos = some cell → cell.ComesBack

theorem comesBack_iff {workbook : Workbook} :
    workbook.ComesBack ↔
      (∀ sheet ∈ workbook.sheets, StoresNoEmpty sheet.cells) ∧ workbook.NumbersReadBack := by
  constructor
  · intro h
    exact ⟨fun sheet hsheet entry hentry =>
        (h sheet hsheet entry.1 entry.2 (Sparse.mem_entries_iff.1 hentry)).1,
      fun sheet hsheet entry hentry =>
        (h sheet hsheet entry.1 entry.2 (Sparse.mem_entries_iff.1 hentry)).2⟩
  · rintro ⟨hcells, hnumbers⟩ sheet hsheet pos cell hcell
    have hentry := Sparse.mem_entries_iff.2 hcell
    exact ⟨hcells sheet hsheet _ hentry, hnumbers sheet hsheet _ hentry⟩

theorem Rewritten.comesBack {before after : Workbook} (h : Rewritten before after)
    (hbefore : before.ComesBack) : after.ComesBack := by
  intro sheet hsheet pos cell hcell
  obtain ⟨i, hi⟩ := List.mem_iff_getElem?.1 hsheet
  obtain ⟨old, hold, hrewritten⟩ := exists_left_of_getElem? h.sheets hi
  exact (hrewritten.cell? pos).comesBack (hbefore old (List.mem_of_getElem? hold) pos) cell hcell

/-- A workbook of which every cell comes back is read as it was stored. -/
theorem ComesBack.ofText_eq_ok {workbook : Workbook} (h : workbook.ComesBack) :
    ofText workbook.text = .ok workbook := by
  obtain ⟨hcells, hnumbers⟩ := comesBack_iff.1 h
  exact ofText_text_eq_self hnumbers hcells

/-! ## Opening and saving -/

/-- Opens the stored workbook at a path, whatever the extension of the path is. -/
def openStored (files : FileTree) (path : Path) : Except DocumentError Workbook :=
  match files.readText path with
  | .error e => .error (.file path e)
  | .ok s =>
    match ofText s with
    | .ok workbook => .ok workbook
    | .error e => .error (.json e (faultPlace? s e))

theorem openStored_eq_ok_iff {files : FileTree} {path : Path} {workbook : Workbook} :
    openStored files path = .ok workbook ↔
      ∃ s, files.read path = .ok (.text s) ∧ ofText s = .ok workbook := by
  unfold openStored FileTree.readText
  constructor
  · intro hopen
    split at hopen
    · contradiction
    · next s hread =>
      split at hread
      · next hcontents =>
        obtain rfl := Except.ok.inj hread
        refine ⟨_, hcontents, ?_⟩
        split at hopen
        · next hs => rw [hs, Except.ok.inj hopen]
        · contradiction
      · contradiction
      · contradiction
  · rintro ⟨s, hread, hs⟩
    simp only [hread, hs]

/-- What is opened as a workbook is the stored workbook of a path with the extension for it. -/
theorem openAt_eq_workbook_iff {files : FileTree} {path : Path} {workbook : Workbook} :
    OpenDocument.openAt files path = .ok (.workbook workbook) ↔
      path.extension = "json" ∧ openStored files path = .ok workbook := by
  rw [openStored_eq_ok_iff]
  unfold OpenDocument.openAt
  constructor
  · intro hopen
    split at hopen
    · contradiction
    · next contents hread =>
      split at hopen
      · next hextension =>
        refine ⟨hextension, ?_⟩
        split at hopen
        · next s =>
          refine ⟨s, hread, ?_⟩
          split at hopen
          · next hs => simpa [hs] using hopen
          · contradiction
        · contradiction
      · split at hopen <;> simp at hopen
      · split at hopen <;> simp at hopen
      · contradiction
  · rintro ⟨hextension, s, hread, hs⟩
    simp only [hread, hextension, hs]

theorem save_eq_ok_iff {workbook : Workbook} {files after : FileTree} {path : Path} :
    workbook.save files path = .ok after ↔ files.write path (.text workbook.text) = .ok after := by
  unfold save
  cases files.write path (.text workbook.text) with
  | ok files' => simp
  | error e => simp

/-- A workbook of which every cell comes back is the stored workbook where it was saved. -/
theorem ComesBack.openStored_of_save {workbook : Workbook} (h : workbook.ComesBack)
    {files after : FileTree} {path : Path} (hsave : workbook.save files path = .ok after) :
    openStored after path = .ok workbook := by
  have hread := FileTree.read_of_write (save_eq_ok_iff.1 hsave)
  exact openStored_eq_ok_iff.2 ⟨workbook.text, hread, h.ofText_eq_ok⟩

/-- No cell of a stored workbook that is opened is empty. -/
theorem comesBack_of_openStored {files : FileTree} {path : Path} {workbook : Workbook}
    (hopen : openStored files path = .ok workbook) (hnumbers : workbook.NumbersReadBack) :
    workbook.ComesBack := by
  obtain ⟨s, -, hs⟩ := openStored_eq_ok_iff.1 hopen
  exact comesBack_iff.2 ⟨storesNoEmpty_of_ofJson (Json.of_decodeText hs), hnumbers⟩

end Workbook

/-! ## Filling an opened workbook -/

namespace Template

variable {δ : Type} [Document δ] {template : Template} {files after : FileTree}

/-- Where a template reports that it saved a document, it did. -/
theorem save_eq_saved {doc : δ} {event : Event}
    (hsave : template.save doc files = some (after, true, event)) :
    Document.save doc files template.output = .ok after := by
  unfold save at hsave
  split at hsave
  · simp at hsave
  · split at hsave
    · next files' hdoc =>
      obtain rfl : files' = after := by simpa using congrArg (Option.map Prod.fst) hsave
      exact hdoc
    · simp at hsave
    · contradiction

theorem apply_eq_saved {doc : δ} {filled : Filled δ}
    (happly : template.apply doc files = (filled, some after)) (hsaved : filled.report.saved = true) :
    Document.save (template.run doc).doc files template.output = .ok after ∧
      filled.report = { (template.run doc).report with saved := true } := by
  unfold apply at happly
  dsimp only at happly
  cases hsave : template.save (template.run doc).doc files with
  | none => simp [hsave] at happly
  | some outcome =>
    obtain ⟨files', saved, event⟩ := outcome
    rw [hsave] at happly
    obtain ⟨rfl, hfiles⟩ := Prod.mk.inj happly
    obtain rfl := Option.some.inj hfiles
    obtain rfl : saved = true := hsaved
    exact ⟨save_eq_saved hsave, rfl⟩

end Template

/-- In a dry run, a script whose document is opened is carried out and nothing else. -/
theorem result_fillFile_dryRun {files : FileTree} {path : Path} {template : Template} {log : Log}
    {doc : OpenDocument} (hload : Template.load files path = (.ok template, log))
    (hopen : OpenDocument.openAt files template.source = .ok doc) :
    (fillFile true files path).result = some (.ok (template.run doc).report) := by
  simp only [fillFile, hload, hopen, if_true]

/-- Where a script that is filled reports that the document was saved, it was. -/
theorem fillFile_eq_saved {files : FileTree} {path : Path} {template : Template} {log : Log}
    {doc : OpenDocument} {report : FillReport}
    (hload : Template.load files path = (.ok template, log))
    (hopen : OpenDocument.openAt files template.source = .ok doc)
    (hresult : (fillFile false files path).result = some (.ok report)) (hsaved : report.saved = true) :
    Document.save (template.run doc).doc files template.output =
        .ok (fillFile false files path).files ∧
      report = { (template.run doc).report with saved := true } := by
  cases happly : template.apply doc files with
  | mk filled after =>
    cases after with
    | none => simp [fillFile, hload, hopen, happly] at hresult
    | some after =>
      obtain rfl : filled.report = report := by
        simpa [fillFile, hload, hopen, happly] using hresult
      have hfiles : (fillFile false files path).files = after := by
        simp [fillFile, hload, hopen, happly]
      rw [hfiles]
      exact Template.apply_eq_saved happly hsaved

/-- A workbook that a script saved is, where it is opened again, the workbook as the script left it,
and stores no empty cell. So a second script does to it what it does to that workbook. -/
theorem fillFile_saved {files : FileTree} {path : Path} {template : Template} {log : Log}
    {workbook : Workbook} {report : FillReport}
    (hload : Template.load files path = (.ok template, log))
    (hopen : OpenDocument.openAt files template.source = .ok (.workbook workbook))
    (hnumbers : workbook.NumbersReadBack)
    (hresult : (fillFile false files path).result = some (.ok report)) (hsaved : report.saved = true) :
    Workbook.openStored (fillFile false files path).files template.output =
        .ok (template.run workbook).doc ∧
      (∀ sheet ∈ (template.run workbook).doc.sheets, StoresNoEmpty sheet.cells) ∧
      report = { (template.run workbook).report with saved := true } ∧
      (∀ (second : Template) (reopened : Workbook),
        Workbook.openStored (fillFile false files path).files template.output = .ok reopened →
        second.run reopened = second.run (template.run workbook).doc) ∧
      ∀ (next : Path) (second : Template) (log' : Log),
        Template.load (fillFile false files path).files next = (.ok second, log') →
        second.source = template.output → template.output.extension = "json" →
        (fillFile true (fillFile false files path).files next).result =
          some (.ok (second.run (template.run workbook).doc).report) := by
  obtain ⟨hsave, hreport⟩ := fillFile_eq_saved hload hopen hresult hsaved
  obtain ⟨hdoc, hsame, -⟩ := simulation_workbook.run rfl template (a := .workbook workbook)
  rw [hdoc] at hsave
  have hback : (template.run workbook).doc.ComesBack :=
    (template.rewritten_run workbook).comesBack
      (Workbook.comesBack_of_openStored (Workbook.openAt_eq_workbook_iff.1 hopen).2 hnumbers)
  have hstored := hback.openStored_of_save hsave
  refine ⟨hstored, (Workbook.comesBack_iff.1 hback).1, by rw [hreport, hsame], ?_, ?_⟩
  · intro second reopened hreopened
    rw [hstored] at hreopened
    rw [Except.ok.inj hreopened]
  · intro next second log' hsecond hsource hextension
    have hopened : OpenDocument.openAt (fillFile false files path).files second.source =
        .ok (.workbook (template.run workbook).doc) :=
      Workbook.openAt_eq_workbook_iff.2 (hsource ▸ ⟨hextension, hstored⟩)
    obtain ⟨-, hsame', -⟩ := simulation_workbook.run rfl second
      (a := .workbook (template.run workbook).doc)
    rw [result_fillFile_dryRun hsecond hopened, hsame']

/-- A script that notes a payment in a stored workbook and stores that under another name. -/
def paymentText : String :=
  "file: dues.json\noutput: paid.json\n#Members\ncell equals:Ada\nadd-r:-5\nin cash"

/-- The script with the workbook that it fills. -/
def duesFolder : FileTree :=
  ⟨[(["dues.json"], .file (.text dues.text)), (["payment"], .file (.text paymentText))]⟩

theorem fillFile_saved_dues :
    Template.load duesFolder ⟨"payment"⟩ = (.ok (.ofText paymentText), #[]) ∧
      OpenDocument.openAt duesFolder (Template.ofText paymentText).source = .ok (.workbook dues) ∧
      dues.NumbersReadBack ∧
      (fillFile false duesFolder ⟨"payment"⟩).result =
        some (.ok ⟨1, [], ⟨1, 1, 1, 0, 0, 0⟩, true⟩) ∧
      Workbook.openStored (fillFile false duesFolder ⟨"payment"⟩).files ⟨"paid.json"⟩ =
        .ok ((Template.ofText paymentText).run dues).doc := by
  have hsource : (Template.ofText paymentText).source = ⟨"dues.json"⟩ := by decide +kernel
  have hread : duesFolder.read ⟨"dues.json"⟩ = .ok (.text dues.text) :=
    FileTree.read_of_node? (FileTree.locate_eq_ok_iff.2 ⟨by decide +kernel, rfl⟩) rfl
  have hload : Template.load duesFolder ⟨"payment"⟩ = (.ok (.ofText paymentText), #[]) := by
    have hscript : duesFolder.read ⟨"payment"⟩ = .ok (.text paymentText) :=
      FileTree.read_of_node? (FileTree.locate_eq_ok_iff.2 ⟨by decide +kernel, rfl⟩) rfl
    have hnotes : Template.notesOfText paymentText = [] := by decide +kernel
    rw [Template.load_of_read hscript (hsource ▸ hread), hnotes]
    rfl
  have hnumbers : dues.NumbersReadBack := by decide +kernel
  have hopen : OpenDocument.openAt duesFolder (Template.ofText paymentText).source =
      .ok (.workbook dues) := by
    have hback : dues.ComesBack := Workbook.comesBack_iff.2 ⟨by decide +kernel, hnumbers⟩
    rw [hsource, Workbook.openAt_eq_workbook_iff, Workbook.openStored_eq_ok_iff]
    exact ⟨by decide +kernel, dues.text, hread, hback.ofText_eq_ok⟩
  have hresult : (fillFile false duesFolder ⟨"payment"⟩).result =
      some (.ok ⟨1, [], ⟨1, 1, 1, 0, 0, 0⟩, true⟩) := by
    obtain ⟨hdoc, hreport, -⟩ := simulation_workbook.run rfl (Template.ofText paymentText)
      (a := .workbook dues)
    have houtput : (Template.ofText paymentText).output = ⟨"paid.json"⟩ := by decide +kernel
    obtain ⟨after, hsave⟩ : ∃ after, Document.save ((Template.ofText paymentText).run
        (OpenDocument.workbook dues)).doc duesFolder (Template.ofText paymentText).output =
          .ok after := by
      rw [hdoc, houtput]
      exact ⟨_, Workbook.save_eq_ok_iff.2 (FileTree.write_eq_ok_iff.2 ⟨by decide +kernel, _,
        FileTree.locate_eq_ok_iff.2 ⟨by decide +kernel, rfl⟩, by decide, rfl⟩)⟩
    have hnamed : (Template.ofText paymentText).output.isEmpty = false := by rw [houtput]; rfl
    have hreport' : ((Template.ofText paymentText).run dues).report =
        ⟨1, [], ⟨1, 1, 1, 0, 0, 0⟩, false⟩ := by decide +kernel
    simp [fillFile, hload, hopen, Template.apply, Template.save, hnamed, hsave, hreport, hreport']
  obtain ⟨hstored, -⟩ := fillFile_saved hload hopen hnumbers hresult rfl
  exact ⟨hload, hopen, hnumbers, hresult, hstored⟩

end FillScript
