import FillScript.Proofs.Document.Book
import FillScript.Proofs.Document.Simulation
import FillScript.Proofs.Number.Writing
import Mathlib.Data.List.Forall2

/-!
# Workbooks and books that show the same

A workbook and a book show the same document when their sheets have the same names, none of them
twice, and the same text and format at every position, and the workbook stores no empty text
(`SameDocument`). They keep their used ranges in different ways, but the ranges are the same: a
value is there exactly where a text shows (`uses_iff_text`), so both sides look for the greatest
number with one property. Together with a table of ranges that is right, `SameDocument` is a
simulation (`simulation_sameDocument`), so that a template does the same to both
(`run_sameDocument`).
-/

namespace FillScript

/-! ## Values and their texts -/

namespace CellValue

/-- Only the empty text is a value that does not show. -/
theorem shown_eq_empty_iff {value : CellValue} (htext : value ≠ .text "") :
    value.shown = "" ↔ value.isEmpty = true := by
  cases value with
  | empty => simp [shown, isEmpty]
  | number x =>
    have hshown : x.shown.text ≠ "" := Numeral.text_ne_empty x.isProper_shown
    simp [shown, hshown, isEmpty]
  | text s =>
    have hs : s ≠ "" := fun h => htext (congrArg text h)
    simp [shown, hs, isEmpty]
  | boolean b => cases b <;> simp [shown, isEmpty]

/-- No text is stored as the empty one. -/
theorem ofText_ne (s : String) : ofText s ≠ .text "" := by
  unfold ofText
  by_cases hempty : s.isEmpty = true
  · rw [if_pos hempty]
    simp
  · rw [if_neg hempty]
    intro heq
    obtain rfl : s = "" := by simpa using heq
    exact hempty rfl

end CellValue

/-! ## Sheets -/

/-- A sheet of a workbook and a sheet of a book that show the same. -/
structure ShowsSame (sheet : Sheet) (page : BookSheet) : Prop where
  name : sheet.name = page.name
  text (pos : Coord) : sheet.text pos = page.text pos
  format (pos : Coord) : (sheet.cell pos).format = (page.cell pos).format
  noEmptyText (pos : Coord) : sheet.value pos ≠ .text ""

namespace ShowsSame

variable {sheet : Sheet} {page : BookSheet}

/-- There is a value exactly where the other sheet has a text. -/
theorem uses_iff_text (hsame : ShowsSame sheet page) (pos : Coord) :
    sheet.Uses pos ↔ page.text pos ≠ "" := by
  rw [← hsame.text, Sheet.text, ne_eq, CellValue.shown_eq_empty_iff (hsame.noEmptyText pos),
    Sheet.Uses, Bool.not_eq_true]

/-- Sheets show the same if what they store shows the same, entry by entry. -/
theorem of_entries (hname : sheet.name = page.name)
    (hentries : List.Forall₂ (fun a b => a.1 = b.1 ∧ a.2.value.shown = b.2.value.bookText ∧
      a.2.format = b.2.format ∧ a.2.value ≠ .text "") sheet.cells.entries page.cells.entries) :
    ShowsSame sheet page := by
  have hcell (pos : Coord) : (sheet.cell pos).value.shown = (page.cell pos).value.bookText ∧
      (sheet.cell pos).format = (page.cell pos).format ∧ (sheet.cell pos).value ≠ .text "" := by
    rw [Sheet.cell, Sheet.cell?, BookSheet.cell, Sparse.find?, Sparse.find?]
    generalize sheet.cells.entries = entries at hentries
    generalize page.cells.entries = entries' at hentries
    -- the two lists of entries are gone through side by side
    induction hentries with
    | nil => exact ⟨rfl, rfl, by simp [Sparse.lookup, Cell.blank]⟩
    | @cons a b _ _ hhead _ ih =>
      obtain ⟨key, cell⟩ := a
      obtain ⟨key', cell'⟩ := b
      obtain ⟨rfl, hsame⟩ := hhead
      rw [Sparse.lookup, Sparse.lookup]
      by_cases hkey : rank key = rank pos
      · rw [if_pos hkey, if_pos hkey]
        exact hsame
      · rw [if_neg hkey, if_neg hkey]
        exact ih
  exact ⟨hname, fun pos => (hcell pos).1, fun pos => (hcell pos).2.1, fun pos => (hcell pos).2.2⟩

/-- The last used column of a row is the one that right bounds have for it. -/
theorem lastUsedCol (hsame : ShowsSame sheet page) {bounds : RowBounds} (hfit : bounds.Fit page)
    (row : UInt32) : sheet.lastUsedCol row = bounds.find? row := by
  refine (sheet.isLast_lastUsedCol row).unique ((hfit row).congr fun col => ?_)
  exact (hsame.uses_iff_text ⟨row, col⟩).symm

/-- The last used row is the one that right bounds end at. -/
theorem lastUsedRow (hsame : ShowsSame sheet page) {bounds : RowBounds}
    (hfit : bounds.Fit page) : sheet.lastUsedRow = bounds.lastRow := by
  refine sheet.isLast_lastUsedRow.unique (hfit.isLast_lastRow.congr fun row => ?_)
  exact exists_congr fun col => (hsame.uses_iff_text ⟨row, col⟩).symm

/-- Storing a text and asking for a format come to the same on both sides. -/
theorem setText (hsame : ShowsSame sheet page) (pos : Coord) (text : String)
    (request : CellFormat) :
    ShowsSame ((sheet.setText pos text).applyFormat pos request)
      ((page.setText pos text).applyFormat pos request) where
  name := hsame.name
  text other := by
    rw [Sheet.text, Sheet.value, Sheet.cell_applyFormat_setText,
      BookSheet.text_applyFormat_setText]
    by_cases heq : other = pos
    · rw [if_pos heq, if_pos heq]
      exact CellValue.shown_ofText text
    · rw [if_neg heq, if_neg heq]
      exact hsame.text other
  format other := by
    rw [Sheet.cell_applyFormat_setText, BookSheet.cell_applyFormat_setText, hsame.format pos]
    by_cases heq : other = pos
    · rw [if_pos heq, if_pos heq]
    · rw [if_neg heq, if_neg heq]
      exact hsame.format other
  noEmptyText other := by
    rw [Sheet.value, Sheet.cell_applyFormat_setText]
    by_cases heq : other = pos
    · rw [if_pos heq]
      exact CellValue.ofText_ne text
    · rw [if_neg heq]
      exact hsame.noEmptyText other

/-- Asking for a format alone comes to the same on both sides. -/
theorem applyFormat (hsame : ShowsSame sheet page) (pos : Coord) (request : CellFormat) :
    ShowsSame (sheet.applyFormat pos request) (page.applyFormat pos request) := by
  refine ⟨hsame.name, fun other => ?_, fun other => ?_, fun other => ?_⟩
  · rw [Sheet.text, Sheet.value_applyFormat, BookSheet.text_applyFormat]
    exact hsame.text other
  · rw [Sheet.cell_applyFormat, BookSheet.cell_applyFormat, hsame.format pos]
    by_cases heq : other = pos
    · rw [if_pos heq, if_pos heq]
    · rw [if_neg heq, if_neg heq]
      exact hsame.format other
  · rw [Sheet.value_applyFormat]
    exact hsame.noEmptyText other

end ShowsSame

/-! ## Lists of sheets -/

section

variable {sheets : List Sheet} {pages : List BookSheet}

/-- A name stands for a sheet on neither side, or for sheets that show the same. -/
theorem find?_of_forall₂ (hsame : List.Forall₂ ShowsSame sheets pages) (name : String) :
    (sheets.find? (·.name == name) = none ∧ pages.find? (·.name == name) = none) ∨
      ∃ sheet page, sheets.find? (·.name == name) = some sheet ∧
        pages.find? (·.name == name) = some page ∧ ShowsSame sheet page := by
  induction hsame with
  | nil => exact .inl ⟨rfl, rfl⟩
  | @cons sheet page sheets pages hhead _ ih =>
    rw [List.find?_cons, List.find?_cons, hhead.name]
    cases page.name == name with
    | true => exact .inr ⟨sheet, page, rfl, rfl, hhead⟩
    | false => exact ih

theorem names_of_forall₂ (hsame : List.Forall₂ ShowsSame sheets pages) :
    sheets.map (·.name) = pages.map (·.name) := by
  induction hsame with
  | nil => rfl
  | cons hhead _ ih => rw [List.map_cons, List.map_cons, hhead.name, ih]

/-- Changing the sheet of a name on both sides keeps lists that show the same. -/
theorem forall₂_modifyFirst (hsame : List.Forall₂ ShowsSame sheets pages) (name : String)
    {f : Sheet → Sheet} {g : BookSheet → BookSheet}
    (hchange : ∀ {sheet page}, ShowsSame sheet page → ShowsSame (f sheet) (g page)) :
    List.Forall₂ ShowsSame (modifyFirst (·.name == name) f sheets)
      (modifyFirst (·.name == name) g pages) := by
  induction hsame with
  | nil => exact .nil
  | @cons sheet page sheets pages hhead htail ih =>
    simp only [modifyFirst, hhead.name]
    by_cases hname : (page.name == name) = true
    · rw [if_pos hname, if_pos hname]
      exact .cons (hchange hhead) htail
    · rw [if_neg hname, if_neg hname]
      exact .cons hhead ih

end

/-! ## Documents -/

/-- A workbook and a book that show the same document. -/
structure SameDocument (workbook : Workbook) (book : Book) : Prop where
  sheets : List.Forall₂ ShowsSame workbook.sheets book.sheets
  distinct : workbook.sheetNames.Nodup

namespace SameDocument

variable {workbook : Workbook} {book : Book}

theorem sheetNames (hsame : SameDocument workbook book) :
    workbook.sheetNames = book.sheets.map (·.name) :=
  names_of_forall₂ hsame.sheets

theorem sheet? (hsame : SameDocument workbook book) (name : String) :
    (workbook.sheet? name = none ∧ book.sheet? name = none) ∨
      ∃ sheet page, workbook.sheet? name = some sheet ∧ book.sheet? name = some page ∧
        ShowsSame sheet page :=
  find?_of_forall₂ hsame.sheets name

theorem modifySheet (hsame : SameDocument workbook book) (name : String) {f : Sheet → Sheet}
    {g : BookSheet → BookSheet} (hname : ∀ sheet, (f sheet).name = sheet.name)
    (hchange : ∀ {sheet page}, ShowsSame sheet page → ShowsSame (f sheet) (g page)) :
    SameDocument (workbook.modifySheet name f) (book.modifySheet name g) where
  sheets := forall₂_modifyFirst hsame.sheets name hchange
  distinct := by
    rw [Workbook.sheetNames_modifySheet fun sheet hsheet => (hname sheet).trans hsheet]
    exact hsame.distinct

end SameDocument

/-- A workbook and an open book that show the same, the book with its ranges in order. -/
def SameOpenDocument (workbook : Workbook) (doc : OpenBook) : Prop :=
  SameDocument workbook doc.book ∧ doc.Measured

namespace SameOpenDocument

variable {workbook : Workbook} {doc : OpenBook}

/-- A name stands for a sheet and has bounds on neither side, or it stands for sheets that show the
same and has bounds that are right. -/
theorem sheet? (h : SameOpenDocument workbook doc) (name : String) :
    (workbook.sheet? name = none ∧ doc.book.sheet? name = none ∧
      BoundsTable.find? doc.bounds name = none) ∨
      ∃ sheet page bounds, workbook.sheet? name = some sheet ∧ doc.book.sheet? name = some page ∧
        BoundsTable.find? doc.bounds name = some bounds ∧ ShowsSame sheet page ∧
        bounds.Fit page := by
  rcases h.1.sheet? name with ⟨hsheet, hpage⟩ | ⟨sheet, page, hsheet, hpage, hsame⟩
  · exact .inl ⟨hsheet, hpage, h.2.absent hpage⟩
  · obtain ⟨bounds, hbounds, hfit⟩ := h.2.fit hpage
    exact .inr ⟨sheet, page, bounds, hsheet, hpage, hbounds, hsame, hfit⟩

theorem lastUsedRow (h : SameOpenDocument workbook doc) (name : String) :
    Document.lastUsedRow workbook name = Document.lastUsedRow doc name := by
  simp only [Document.lastUsedRow]
  rcases h.sheet? name with ⟨hsheet, -, hbounds⟩ | ⟨sheet, page, bounds, hsheet, -, hbounds, hrest⟩
  · rw [hsheet, hbounds]
    rfl
  · rw [hsheet, hbounds, Option.bind_some, Option.bind_some]
    exact hrest.1.lastUsedRow hrest.2

theorem lastUsedCol (h : SameOpenDocument workbook doc) (name : String) (row : UInt32) :
    Document.lastUsedCol workbook name row = Document.lastUsedCol doc name row := by
  simp only [Document.lastUsedCol]
  rcases h.sheet? name with ⟨hsheet, -, hbounds⟩ | ⟨sheet, page, bounds, hsheet, -, hbounds, hrest⟩
  · rw [hsheet, hbounds]
    rfl
  · rw [hsheet, hbounds, Option.bind_some, Option.bind_some]
    exact hrest.1.lastUsedCol hrest.2 row

theorem text (h : SameOpenDocument workbook doc) (name : String) (pos : Coord) :
    Document.text workbook name pos = Document.text doc name pos := by
  simp only [Document.text, OpenBook.text]
  rcases h.1.sheet? name with ⟨hsheet, hpage⟩ | ⟨sheet, page, hsheet, hpage, hsame⟩
  · rw [hsheet, hpage]
    rfl
  · rw [hsheet, hpage]
    exact hsame.text pos

theorem header (h : SameOpenDocument workbook doc) (name : String) :
    Document.header workbook name = Document.header doc name := by
  simp only [Document.header, OpenBook.text]
  rcases h.sheet? name with
    ⟨hsheet, hpage, hbounds⟩ | ⟨sheet, page, bounds, hsheet, hpage, hbounds, hsame, hfit⟩
  · rw [hsheet, hbounds]
    rfl
  · rw [hsheet, hbounds, hpage, Option.bind_some, Option.map_some, Option.getD_some,
      Sheet.header, ← hsame.lastUsedCol hfit]
    cases sheet.lastUsedCol 0 with
    | none => rfl
    | some last => exact List.map_congr_left fun col _ => hsame.text ⟨0, col⟩

/-- Storing a text fails on both sides in the same way, or leads to documents that show the same. -/
theorem setText (h : SameOpenDocument workbook doc) (name : String) (pos : Coord) (text : String)
    (request : CellFormat) :
    SameOutcome SameOpenDocument (Document.setText workbook name pos text request)
      (Document.setText doc name pos text request) := by
  simp only [Document.setText, Workbook.change, OpenBook.change]
  rcases h.1.sheet? name with ⟨hsheet, hpage⟩ | ⟨sheet, page, hsheet, hpage, -⟩
  · rw [hsheet, hpage]
    exact .error _
  · rw [hsheet, hpage]
    refine .ok ⟨?_, h.2.write hpage pos text request⟩
    exact h.1.modifySheet name (fun _ => rfl) fun hsame => hsame.setText pos text request

theorem applyFormat (h : SameOpenDocument workbook doc) (name : String) (pos : Coord)
    (request : CellFormat) :
    SameOutcome SameOpenDocument (Document.applyFormat workbook name pos request)
      (Document.applyFormat doc name pos request) := by
  simp only [Document.applyFormat, Workbook.change, OpenBook.change]
  rcases h.1.sheet? name with ⟨hsheet, hpage⟩ | ⟨sheet, page, hsheet, hpage, -⟩
  · rw [hsheet, hpage]
    exact .error _
  · rw [hsheet, hpage]
    refine .ok ⟨?_, h.2.format hpage pos request⟩
    exact h.1.modifySheet name (fun _ => rfl) fun hsame => hsame.applyFormat pos request

end SameOpenDocument

/-- Workbooks and open books that show the same answer alike and are changed alike. -/
theorem simulation_sameDocument : Simulation SameOpenDocument where
  sheetNames h := h.1.sheetNames
  lastUsedRow h := h.lastUsedRow
  lastUsedCol h := h.lastUsedCol
  text h := h.text
  header h := h.header
  setText h := h.setText
  applyFormat h := h.applyFormat

/-! ## Templates -/

/-- A template does the same to a workbook and to a book that show the same document: the reports
are equal, the filled documents show the same again, and both give the same used ranges and headers.
-/
theorem run_sameDocument {workbook : Workbook} {book : Book} (hsame : SameDocument workbook book)
    (template : Template) :
    (template.run workbook).report = (template.run (OpenBook.ofBook book)).report ∧
      SameDocument (template.run workbook).doc (template.run (OpenBook.ofBook book)).doc.book ∧
      ∀ name,
        Document.lastUsedRow (template.run workbook).doc name =
          Document.lastUsedRow (template.run (OpenBook.ofBook book)).doc name ∧
        (∀ row, Document.lastUsedCol (template.run workbook).doc name row =
          Document.lastUsedCol (template.run (OpenBook.ofBook book)).doc name row) ∧
        Document.header (template.run workbook).doc name =
          Document.header (template.run (OpenBook.ofBook book)).doc name := by
  have hdistinct : (book.sheets.map (·.name)).Nodup := hsame.sheetNames ▸ hsame.distinct
  have hopen : SameOpenDocument workbook (OpenBook.ofBook book) :=
    ⟨hsame, OpenBook.measured_ofBook hdistinct⟩
  obtain ⟨hdoc, hreport, -⟩ := simulation_sameDocument.run hopen template
  refine ⟨hreport, hdoc.1, fun name => ⟨?_, fun row => ?_, ?_⟩⟩
  · exact simulation_sameDocument.lastUsedRow hdoc name
  · exact simulation_sameDocument.lastUsedCol hdoc name row
  · exact simulation_sameDocument.header hdoc name

/-- A workbook that says who has paid. -/
def dues : Workbook :=
  ⟨"Dues", [((Sheet.withHeader "Members" ["Name", "Paid"]).setText ⟨1, 0⟩ "Ada").setCell ⟨1, 1⟩
    ⟨.boolean true, .styleHint⟩]⟩

/-- The same as a book, where everything is a text. -/
def duesBook : Book :=
  ⟨[((((BookSheet.mk "Members" .empty).setText ⟨0, 0⟩ "Name").setText ⟨0, 1⟩ "Paid").setText ⟨1, 0⟩
    "Ada").setCell ⟨1, 1⟩ ⟨.text "TRUE", .styleHint⟩]⟩

/-- A script that finds the row of a member and notes a payment. -/
def duesScript : Template :=
  ⟨.empty, .empty, true, [], ["Paid"],
    Sections.empty.commit "Members" ["Paid: no", "Name: Ada", "Paid: yes", "in cash"]⟩

theorem run_sameDocument_dues :
    SameDocument dues duesBook ∧
      ((duesScript.run dues).report = (duesScript.run (OpenBook.ofBook duesBook)).report ∧
        SameDocument (duesScript.run dues).doc
          (duesScript.run (OpenBook.ofBook duesBook)).doc.book ∧
        ∀ name,
          Document.lastUsedRow (duesScript.run dues).doc name =
            Document.lastUsedRow (duesScript.run (OpenBook.ofBook duesBook)).doc name ∧
          (∀ row, Document.lastUsedCol (duesScript.run dues).doc name row =
            Document.lastUsedCol (duesScript.run (OpenBook.ofBook duesBook)).doc name row) ∧
          Document.header (duesScript.run dues).doc name =
            Document.header (duesScript.run (OpenBook.ofBook duesBook)).doc name) := by
  have hsame : SameDocument dues duesBook :=
    ⟨.cons (ShowsSame.of_entries rfl (by decide)) .nil, by decide⟩
  exact ⟨hsame, run_sameDocument hsame duesScript⟩

end FillScript
