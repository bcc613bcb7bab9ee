import FillScript.Proofs.Document.Book

/-!
# Used ranges follow every change

The table of used ranges of an open book is patched and not made anew with every change. Under a
name that one sheet has, it holds what a scan of that sheet would find (`OpenBook.Exact`): so it is
when the book is opened, whatever other names are shared, and every change of a cell keeps it so,
also of another sheet and of one that is not there (`Exact.changed`). So the last used row and
columns are those of the texts that the sheet has now (`usedRanges_changedBy`).
-/

namespace FillScript

/-! ## Changes of a document -/

/-- What a document can be asked to do to a cell. -/
inductive CellChange where
  | text (sheet : String) (pos : Coord) (text : String) (request : CellFormat)
  | format (sheet : String) (pos : Coord) (request : CellFormat)
deriving DecidableEq

namespace Document

variable {δ : Type} [Document δ]

/-- What a document is after a change. One that is refused leaves it as it is. -/
def changed (doc : δ) (change : CellChange) : δ :=
  let outcome :=
    match change with
    | .text sheet pos text request => setText doc sheet pos text request
    | .format sheet pos request => applyFormat doc sheet pos request
  match outcome with
  | .ok doc => doc
  | .error _ => doc

/-- What a document is after changes, one after the other. -/
def changedBy (doc : δ) (changes : List CellChange) : δ :=
  changes.foldl changed doc

end Document

/-! ## The one sheet of a name -/

namespace Book

variable {book : Book} {name other : String} {page : BookSheet} {f : BookSheet → BookSheet}

theorem sheet?_of_filter (honly : book.sheets.filter (·.name == name) = [page]) :
    book.sheet? name = some page := by
  rw [sheet?, ← List.head?_filter, honly, List.head?_cons]

theorem filter_modifySheet (honly : book.sheets.filter (·.name == name) = [page])
    (hname : ∀ p, (f p).name = p.name) :
    (book.modifySheet name f).sheets.filter (·.name == name) = [f page] := by
  rw [modifySheet, filter_modifyFirst (fun p hp => by rw [hname]; exact hp), honly,
    List.modifyHead_cons]

theorem filter_modifySheet_of_ne (hname : ∀ p, (f p).name = p.name) (hne : name ≠ other) :
    (book.modifySheet other f).sheets.filter (·.name == name) =
      book.sheets.filter (·.name == name) := by
  refine filter_modifyFirst_of_disjoint (fun p hp => ?_) book.sheets
  have hp' : p.name = other := by simpa using hp
  simp only [hname, hp', beq_iff_eq, and_self]
  exact hne.symm

end Book

namespace OpenBook

/-- A page is the one sheet of a name, and the ranges under the name are those of its cells. -/
structure Exact (doc : OpenBook) (name : String) (page : BookSheet) : Prop where
  only : doc.book.sheets.filter (·.name == name) = [page]
  scanned : BoundsTable.find? doc.bounds name = some (RowBounds.scan page.cells)

variable {doc : OpenBook} {name : String} {page : BookSheet}

/-- When a book is opened, the ranges of all sheets are scanned. -/
theorem exact_ofBook {book : Book} (honly : book.sheets.filter (·.name == name) = [page]) :
    (ofBook book).Exact name page := by
  refine ⟨honly, ?_⟩
  rw [ofBook, BoundsTable.find?_scan, honly, List.getLast?_singleton, Option.map_some]

namespace Exact

/-! ## What a change keeps -/

/-- A text in the one sheet of a name is noted in its ranges, or the sheet is scanned anew. -/
theorem write_self (h : doc.Exact name page) (pos : Coord) (text : String) (request : CellFormat) :
    (doc.write name pos text request).Exact name
      ((page.setText pos text).applyFormat pos request) := by
  have honly := Book.filter_modifySheet (f := fun p => (p.setText pos text).applyFormat pos request)
    h.only fun _ => rfl
  refine ⟨honly, ?_⟩
  simp only [write, BoundsTable.find?_set, if_true, Option.some.injEq]
  by_cases hempty : text.isEmpty = true
  · rw [if_pos hempty, Book.sheet?_of_filter honly]
  · have htext : text ≠ "" := fun heq => hempty (String.isEmpty_iff.2 heq)
    rw [if_neg hempty, h.scanned, Option.getD_some]
    exact ((RowBounds.fit_scan page).note htext request).eq_scan

theorem write_of_ne (h : doc.Exact name page) {other : String} (hne : name ≠ other) (pos : Coord)
    (text : String) (request : CellFormat) : (doc.write other pos text request).Exact name page := by
  have hname : ∀ p : BookSheet, ((p.setText pos text).applyFormat pos request).name = p.name :=
    fun _ => rfl
  refine ⟨(Book.filter_modifySheet_of_ne hname hne).trans h.only, ?_⟩
  simp only [write, BoundsTable.find?_set, if_neg hne, h.scanned]

/-- A format leaves the texts of its sheet as they are, also where it makes a cell. -/
theorem format_self (h : doc.Exact name page) (pos : Coord) (request : CellFormat) :
    (doc.format name pos request).Exact name (page.applyFormat pos request) := by
  refine ⟨Book.filter_modifySheet h.only fun _ => rfl, ?_⟩
  rw [format, h.scanned]
  refine congrArg some ?_
  exact ((RowBounds.fit_scan page).congr fun other => page.text_applyFormat pos other request).eq_scan

theorem format_of_ne (h : doc.Exact name page) {other : String} (hne : name ≠ other) (pos : Coord)
    (request : CellFormat) : (doc.format other pos request).Exact name page :=
  have hname : ∀ p : BookSheet, (p.applyFormat pos request).name = p.name := fun _ => rfl
  ⟨(Book.filter_modifySheet_of_ne hname hne).trans h.only, h.scanned⟩

/-- No change of a cell makes the ranges wrong. -/
theorem changed (h : doc.Exact name page) (change : CellChange) :
    ∃ page', (Document.changed doc change).Exact name page' := by
  cases change with
  | text sheet pos text request =>
    simp only [Document.changed, Document.setText, OpenBook.change]
    cases doc.book.sheet? sheet with
    | none => exact ⟨page, h⟩
    | some _ =>
      by_cases heq : name = sheet
      · subst heq
        exact ⟨_, h.write_self pos text request⟩
      · exact ⟨page, h.write_of_ne heq pos text request⟩
  | format sheet pos request =>
    simp only [Document.changed, Document.applyFormat, OpenBook.change]
    cases doc.book.sheet? sheet with
    | none => exact ⟨page, h⟩
    | some _ =>
      by_cases heq : name = sheet
      · subst heq
        exact ⟨_, h.format_self pos request⟩
      · exact ⟨page, h.format_of_ne heq pos request⟩

theorem changedBy (h : doc.Exact name page) (changes : List CellChange) :
    ∃ page', (Document.changedBy doc changes).Exact name page' := by
  induction changes generalizing doc page with
  | nil => exact ⟨page, h⟩
  | cons change changes ih =>
    obtain ⟨page', h'⟩ := h.changed change
    exact ih h'

/-! ## What the ranges tell -/

theorem text_eq (h : doc.Exact name page) (pos : Coord) :
    Document.text doc name pos = page.text pos := by
  simp only [Document.text, text, Book.sheet?_of_filter h.only]

theorem isLast_lastUsedRow (h : doc.Exact name page) :
    IsLast (fun row => ∃ col, Document.text doc name ⟨row, col⟩ ≠ "")
      (Document.lastUsedRow doc name) := by
  simp only [h.text_eq, Document.lastUsedRow, h.scanned, Option.bind_some]
  exact (RowBounds.fit_scan page).isLast_lastRow

theorem isLast_lastUsedCol (h : doc.Exact name page) (row : UInt32) :
    IsLast (fun col => Document.text doc name ⟨row, col⟩ ≠ "")
      (Document.lastUsedCol doc name row) := by
  simp only [h.text_eq, Document.lastUsedCol, h.scanned, Option.bind_some]
  exact RowBounds.fit_scan page row

end Exact

/-- Whatever changes are made to the cells of an opened book, under a name that one sheet has the
used range is that of the texts in it now, and the same as a scan of the sheet would find. -/
theorem usedRanges_changedBy {book : Book} {name : String} {page : BookSheet}
    (honly : book.sheets.filter (·.name == name) = [page]) (changes : List CellChange) :
    let doc := Document.changedBy (ofBook book) changes
    IsLast (fun row => ∃ col, Document.text doc name ⟨row, col⟩ ≠ "")
        (Document.lastUsedRow doc name) ∧
      (∀ row, IsLast (fun col => Document.text doc name ⟨row, col⟩ ≠ "")
        (Document.lastUsedCol doc name row)) ∧
      ∃ live, doc.book.sheets.filter (·.name == name) = [live] ∧
        BoundsTable.find? doc.bounds name = some (RowBounds.scan live.cells) := by
  intro doc
  obtain ⟨live, h⟩ := (exact_ofBook honly).changedBy changes
  exact ⟨h.isLast_lastUsedRow, h.isLast_lastUsedCol, live, h.only, h.scanned⟩

/-- A sheet of a timetable. -/
def ferries : BookSheet :=
  ((BookSheet.mk "Ferries" .empty).setText ⟨0, 0⟩ "Port").setText ⟨4, 2⟩ "Bergen"

/-- A timetable with two more sheets, which share a name. -/
def timetable : Book :=
  ⟨[⟨"Notes", .empty⟩, ferries, (BookSheet.mk "Notes" .empty).setText ⟨7, 7⟩ "old"]⟩

/-- Changes after which the sheet ends in an earlier row, and then in a later one again. -/
def timetableChanges : List CellChange :=
  [.text "Ferries" ⟨4, 2⟩ "" .styleHint, .format "Ferries" ⟨9, 9⟩ .plain,
    .text "Trains" ⟨8, 8⟩ "Oslo" .styleHint, .text "Notes" ⟨6, 0⟩ "new" .styleHint,
    .text "Ferries" ⟨3, 1⟩ "Moss" .styleHint, .text "Ferries" ⟨3, 5⟩ "" .plain]

theorem usedRanges_changedBy_timetable :
    timetable.sheets.filter (·.name == "Ferries") = [ferries] ∧
      Document.lastUsedRow (Document.changedBy (ofBook timetable) timetableChanges) "Ferries" =
        some 3 ∧
      ∀ pos : Coord, 3 < pos.row →
        Document.text (Document.changedBy (ofBook timetable) timetableChanges) "Ferries" pos =
          "" := by
  have honly : timetable.sheets.filter (·.name == "Ferries") = [ferries] := by decide +kernel
  have hrow : Document.lastUsedRow (Document.changedBy (ofBook timetable) timetableChanges)
      "Ferries" = some 3 := by decide +kernel
  obtain ⟨hlast, -⟩ := usedRanges_changedBy honly timetableChanges
  rw [hrow] at hlast
  refine ⟨honly, hrow, fun pos hpos => ?_⟩
  by_contra htext
  exact absurd (hlast.2 pos.row ⟨pos.col, htext⟩) (UInt32.not_le.2 hpos)

end OpenBook

end FillScript
