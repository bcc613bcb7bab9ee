import FillScript.Document.Basic
import FillScript.Proofs.Document.Workbook

/-!
# Used ranges of books

An open book keeps a table of used ranges beside its cells. The table is right when every sheet has
ranges in it that are those of its texts (`RowBounds.Fit`, `OpenBook.Measured`). It is right for a
book of sheets with distinct names that was just opened (`measured_ofBook`), and both changes keep
it right (`Measured.write`, `Measured.format`): a text is noted beside the others of its row, and
after an empty one the sheet is scanned anew.
-/

namespace FillScript

/-! ## Cells of a sheet -/

namespace BookSheet

@[simp]
theorem name_setText (page : BookSheet) (pos : Coord) (text : String) :
    (page.setText pos text).name = page.name := rfl

@[simp]
theorem name_applyFormat (page : BookSheet) (pos : Coord) (request : CellFormat) :
    (page.applyFormat pos request).name = page.name := rfl

theorem cell_setCell (page : BookSheet) (pos other : Coord) (cell : Cell) :
    (page.setCell pos cell).cell other = if other = pos then cell else page.cell other := by
  by_cases heq : other = pos
  · subst heq
    rw [if_pos rfl, BookSheet.cell, setCell, Sparse.find?_put_self, Option.getD_some]
  · rw [if_neg heq, BookSheet.cell, setCell, Sparse.find?_put_of_ne heq, BookSheet.cell]

theorem cell_setText (page : BookSheet) (pos other : Coord) (text : String) :
    (page.setText pos text).cell other =
      if other = pos then ⟨.text text, (page.cell pos).format⟩ else page.cell other :=
  cell_setCell page pos other _

theorem cell_applyFormat (page : BookSheet) (pos other : Coord) (request : CellFormat) :
    (page.applyFormat pos request).cell other =
      if other = pos then ⟨(page.cell pos).value, (page.cell pos).format.merge request⟩
      else page.cell other :=
  cell_setCell page pos other _

/-- The cells after a text was stored and a format asked for at one position. -/
theorem cell_applyFormat_setText (page : BookSheet) (pos other : Coord) (text : String)
    (request : CellFormat) :
    ((page.setText pos text).applyFormat pos request).cell other =
      if other = pos then ⟨.text text, (page.cell pos).format.merge request⟩
      else page.cell other := by
  rw [cell_applyFormat, cell_setText, cell_setText, if_pos rfl]
  by_cases heq : other = pos
  · rw [if_pos heq, if_pos heq]
  · rw [if_neg heq, if_neg heq, if_neg heq]

/-- A format leaves the texts as they are. -/
theorem text_applyFormat (page : BookSheet) (pos other : Coord) (request : CellFormat) :
    (page.applyFormat pos request).text other = page.text other := by
  rw [text, text, cell_applyFormat]
  by_cases heq : other = pos
  · rw [if_pos heq, heq]
  · rw [if_neg heq]

theorem text_applyFormat_setText (page : BookSheet) (pos other : Coord) (text : String)
    (request : CellFormat) :
    ((page.setText pos text).applyFormat pos request).text other =
      if other = pos then text else page.text other := by
  rw [BookSheet.text, BookSheet.text, cell_applyFormat_setText]
  by_cases heq : other = pos
  · rw [if_pos heq, if_pos heq]
    rfl
  · rw [if_neg heq, if_neg heq]

theorem text_ne_empty_iff {page : BookSheet} {pos : Coord} :
    page.text pos ≠ "" ↔
      ∃ cell, (pos, cell) ∈ page.cells.entries ∧ cell.value.bookText ≠ "" := by
  simp only [text, cell, Sparse.mem_entries_iff]
  cases page.cells.find? pos with
  | none => simp [Cell.blank, CellValue.bookText, CellValue.shown]
  | some cell => simp

end BookSheet

/-! ## Used ranges of a sheet -/

namespace RowBounds

/-- Bounds are right for a sheet if they give the last column with a text for every row. -/
def Fit (bounds : RowBounds) (page : BookSheet) : Prop :=
  ∀ row, IsLast (fun col => page.text ⟨row, col⟩ ≠ "") (bounds.find? row)

/-- Noting a position makes its column the last of its row, or leaves a later one there. -/
theorem isLast_note {bounds : RowBounds} {P : UInt32 → UInt32 → Prop}
    (hbounds : ∀ row, IsLast (P row) (bounds.find? row)) (pos : Coord) (row : UInt32) :
    IsLast (fun col => P row col ∨ (⟨row, col⟩ : Coord) = pos) ((bounds.note pos).find? row) := by
  unfold note
  by_cases hrow : row = pos.row
  · subst hrow
    rw [Sparse.find?_put_self]
    have hiff (col : UInt32) : col = pos.col ↔ (⟨pos.row, col⟩ : Coord) = pos := by
      cases pos
      simp
    have hlast := hbounds pos.row
    cases hfind : bounds.find? pos.row with
    | none =>
      rw [hfind] at hlast
      exact (hlast.insert_none pos.col).congr fun col => or_congr_right (hiff col)
    | some last =>
      rw [hfind] at hlast
      exact (hlast.insert_some pos.col).congr fun col => or_congr_right (hiff col)
  · rw [Sparse.find?_put_of_ne hrow]
    refine (hbounds row).congr fun col => ⟨.inl, fun hcol => ?_⟩
    rcases hcol with hold | hnew
    · exact hold
    · exact absurd (congrArg Coord.row hnew) hrow

theorem exists_text_cons {entries : List (Coord × Cell)} {pos other : Coord} {cell : Cell} :
    (∃ c, (other, c) ∈ (pos, cell) :: entries ∧ c.value.bookText ≠ "") ↔
      (other = pos ∧ cell.value.bookText ≠ "") ∨
        ∃ c, (other, c) ∈ entries ∧ c.value.bookText ≠ "" := by
  simp [or_and_right, exists_or, and_assoc]

/-- Going on with a scan notes the texts of the entries that are left. -/
theorem isLast_foldl {entries : List (Coord × Cell)} {bounds : RowBounds}
    {P : UInt32 → UInt32 → Prop} (hbounds : ∀ row, IsLast (P row) (bounds.find? row))
    (row : UInt32) :
    IsLast
      (fun col => P row col ∨ ∃ cell, (⟨row, col⟩, cell) ∈ entries ∧ cell.value.bookText ≠ "")
      ((entries.foldl (fun bounds (pos, cell) =>
        if cell.value.bookText.isEmpty then bounds else note bounds pos) bounds).find? row) := by
  induction entries generalizing bounds P with
  | nil => simpa using hbounds row
  | cons entry entries ih =>
    obtain ⟨pos, cell⟩ := entry
    rw [List.foldl_cons]
    by_cases hempty : cell.value.bookText.isEmpty = true
    · have htext : ¬cell.value.bookText ≠ "" :=
        fun h => h (String.isEmpty_iff.1 hempty)
      simp only [if_pos hempty]
      refine (ih hbounds).congr fun col => or_congr_right ?_
      rw [exists_text_cons, or_iff_right fun h => htext h.2]
    · have htext : cell.value.bookText ≠ "" := fun h => hempty (String.isEmpty_iff.2 h)
      simp only [if_neg hempty]
      refine (ih (isLast_note hbounds pos)).congr fun col => ?_
      rw [or_assoc, exists_text_cons, and_iff_left htext]

/-- A scan is right for the sheet whose cells are scanned. -/
theorem fit_scan (page : BookSheet) : (scan page.cells).Fit page := by
  intro row
  have hempty : ∀ row, IsLast (fun _ => False) ((Sparse.empty : RowBounds).find? row) :=
    fun _ _ => id
  refine (isLast_foldl hempty row).congr fun col => ?_
  rw [false_or, BookSheet.text_ne_empty_iff]

/-- Right bounds end at the last row with a text. -/
theorem Fit.isLast_lastRow {bounds : RowBounds} {page : BookSheet} (hfit : bounds.Fit page) :
    IsLast (fun row => ∃ col, page.text ⟨row, col⟩ ≠ "") bounds.lastRow := by
  -- a row has bounds exactly if there is a text in it
  have hused (row : UInt32) :
      (∃ last, bounds.find? row = some last) ↔ ∃ col, page.text ⟨row, col⟩ ≠ "" := by
    have hlast := hfit row
    cases hfind : bounds.find? row with
    | none =>
      rw [hfind] at hlast
      exact ⟨fun ⟨_, h⟩ => by simp at h, fun ⟨col, h⟩ => absurd h (hlast col)⟩
    | some last =>
      rw [hfind] at hlast
      exact ⟨fun _ => ⟨last, hlast.1⟩, fun _ => ⟨last, rfl⟩⟩
  unfold lastRow
  cases hkey : bounds.lastKey? fun _ _ => true with
  | none =>
    intro row htext
    obtain ⟨last, hfind⟩ := (hused row).2 htext
    have := Sparse.lastKey?_eq_none_iff.1 hkey row last hfind
    contradiction
  | some row =>
    obtain ⟨⟨last, hfind, -⟩, hmax⟩ := Sparse.lastKey?_eq_some_iff.1 hkey
    refine ⟨(hused row).1 ⟨last, hfind⟩, fun other htext => ?_⟩
    obtain ⟨last', hfind'⟩ := (hused other).2 htext
    exact UInt32.le_iff_toNat_le.2 (hmax other last' hfind' rfl)

/-- Bounds that are right for a sheet are right for one that has the same texts. -/
theorem Fit.congr {bounds : RowBounds} {page other : BookSheet} (hfit : bounds.Fit page)
    (htext : ∀ pos, other.text pos = page.text pos) : bounds.Fit other :=
  fun row => (hfit row).congr fun col => by rw [htext]

/-- No other bounds are right for a sheet than those of a scan. -/
theorem Fit.eq_scan {bounds : RowBounds} {page : BookSheet} (hfit : bounds.Fit page) :
    bounds = scan page.cells :=
  Sparse.ext fun row => (hfit row).unique (fit_scan page row)

/-- Noting the position of a new text keeps bounds right. -/
theorem Fit.note {bounds : RowBounds} {page : BookSheet} (hfit : bounds.Fit page) {pos : Coord}
    {text : String} (htext : text ≠ "") (request : CellFormat) :
    (bounds.note pos).Fit ((page.setText pos text).applyFormat pos request) := by
  intro row
  refine (isLast_note hfit pos row).congr fun col => ?_
  rw [BookSheet.text_applyFormat_setText]
  by_cases heq : (⟨row, col⟩ : Coord) = pos
  · simp only [heq, if_true, or_true, true_iff]
    exact htext
  · simp only [heq, if_false, or_false]

end RowBounds

/-! ## Tables of used ranges -/

namespace BoundsTable

theorem find?_set (table : BoundsTable) (name other : String) (bounds : RowBounds) :
    find? (set name bounds table) other =
      if other = name then some bounds else find? table other := by
  induction table with
  | nil =>
    by_cases heq : other = name
    · simp [set, find?, heq]
    · have hne : ¬name = other := fun h => heq h.symm
      simp [set, find?, heq, hne]
  | cons entry table ih =>
    obtain ⟨n, old⟩ := entry
    by_cases hn : n = name
    · subst hn
      by_cases heq : other = n
      · simp [set, find?, heq]
      · have hne : ¬n = other := fun h => heq h.symm
        simp [set, find?, heq, hne]
    · by_cases hother : n = other
      · subst hother
        simp [set, find?, hn]
      · simpa [set, find?, hn, hother] using ih

theorem find?_foldl (pages : List BookSheet) (table : BoundsTable) (name : String) :
    find? (pages.foldl (fun table page => set page.name (RowBounds.scan page.cells) table) table)
        name =
      ((pages.filter (·.name == name)).getLast?.map fun page => RowBounds.scan page.cells).or
        (find? table name) := by
  induction pages generalizing table with
  | nil => rfl
  | cons page pages ih =>
    rw [List.foldl_cons, ih, find?_set]
    by_cases hname : page.name = name
    · rw [List.filter_cons_of_pos (by simpa using hname), List.getLast?_cons, if_pos hname.symm]
      cases (pages.filter (·.name == name)).getLast? with
      | none => rfl
      | some last => rfl
    · rw [List.filter_cons_of_neg (by simpa using hname), if_neg (Ne.symm hname)]

/-- A scan keeps under a name the ranges of the last sheet that has it. -/
theorem find?_scan (pages : List BookSheet) (name : String) :
    find? (scan pages) name =
      (pages.filter (·.name == name)).getLast?.map fun page => RowBounds.scan page.cells := by
  rw [scan, find?_foldl]
  exact Option.or_none

end BoundsTable

/-! ## Open books -/

namespace OpenBook

/-- The table of used ranges is right for every sheet that a name stands for, and holds nothing
under other names. -/
structure Measured (doc : OpenBook) : Prop where
  fit {name : String} {page : BookSheet} (hpage : doc.book.sheet? name = some page) :
    ∃ bounds, BoundsTable.find? doc.bounds name = some bounds ∧ bounds.Fit page
  absent {name : String} (hnone : doc.book.sheet? name = none) :
    BoundsTable.find? doc.bounds name = none

/-- Where names are distinct, at most one sheet has a name. -/
theorem filter_name_of_nodup {pages : List BookSheet} (hdistinct : (pages.map (·.name)).Nodup)
    (name : String) :
    pages.filter (·.name == name) = (pages.find? (·.name == name)).toList := by
  induction pages with
  | nil => rfl
  | cons page pages ih =>
    rw [List.map_cons, List.nodup_cons] at hdistinct
    by_cases hname : page.name = name
    · subst hname
      have hrest : pages.filter (·.name == page.name) = [] := by
        rw [List.filter_eq_nil_iff]
        intro other hother heq
        exact hdistinct.1 (List.mem_map.2 ⟨other, hother, by simpa using heq⟩)
      rw [List.filter_cons_of_pos (by simp), List.find?_cons_of_pos (by simp), hrest]
      rfl
    · rw [List.filter_cons_of_neg (by simpa using hname),
        List.find?_cons_of_neg (by simpa using hname), ih hdistinct.2]

/-- A book of sheets with distinct names is measured when it is opened. -/
theorem measured_ofBook {book : Book} (hdistinct : (book.sheets.map (·.name)).Nodup) :
    (ofBook book).Measured := by
  have hfind (name : String) : BoundsTable.find? (ofBook book).bounds name =
      (book.sheet? name).map fun page => RowBounds.scan page.cells := by
    rw [ofBook, BoundsTable.find?_scan, filter_name_of_nodup hdistinct, Book.sheet?]
    cases book.sheets.find? (·.name == name) <;> rfl
  refine ⟨fun {name page} hpage => ?_, fun {name} hnone => ?_⟩
  · refine ⟨_, ?_, RowBounds.fit_scan page⟩
    rw [hfind, show book.sheet? name = some page from hpage, Option.map_some]
  · rw [hfind, show book.sheet? name = none from hnone, Option.map_none]

variable {doc : OpenBook} {name : String} {page : BookSheet}

theorem sheet?_modifySheet {book : Book} {f : BookSheet → BookSheet}
    (hpage : book.sheet? name = some page) (hname : ∀ p, (f p).name = p.name) :
    (book.modifySheet name f).sheet? name = some (f page) := by
  have hkind : ∀ p : BookSheet, (p.name == name) = true → ((f p).name == name) = true :=
    fun p hp => by rw [hname]; exact hp
  rw [Book.sheet?] at hpage ⊢
  simp only [Book.modifySheet]
  rw [find?_modifyFirst hkind, hpage, Option.map_some]

theorem sheet?_modifySheet_of_ne {book : Book} {f : BookSheet → BookSheet} {other : String}
    (hname : ∀ p, (f p).name = p.name) (hne : other ≠ name) :
    (book.modifySheet name f).sheet? other = book.sheet? other := by
  refine find?_modifyFirst_of_disjoint (fun p hp => ?_) book.sheets
  have hp' : p.name = name := by simpa using hp
  simp only [hname, hp', beq_iff_eq, and_self]
  exact fun h => hne h.symm

/-- The table stays right when one sheet is changed and new ranges are entered that are right for
it. -/
theorem Measured.replace (hdoc : doc.Measured) (hpage : doc.book.sheet? name = some page)
    {f : BookSheet → BookSheet} (hname : ∀ p, (f p).name = p.name) {bounds : RowBounds}
    (hfit : bounds.Fit (f page)) :
    OpenBook.Measured
      ⟨doc.book.modifySheet name f, BoundsTable.set name bounds doc.bounds⟩ := by
  have hchanged := sheet?_modifySheet hpage hname
  refine ⟨fun {other page'} hpage' => ?_, fun {other} hnone => ?_⟩
  · dsimp only at hpage' ⊢
    rw [BoundsTable.find?_set]
    by_cases heq : other = name
    · subst heq
      rw [hchanged] at hpage'
      obtain rfl : f page = page' := by simpa using hpage'
      rw [if_pos rfl]
      exact ⟨bounds, rfl, hfit⟩
    · rw [if_neg heq]
      rw [sheet?_modifySheet_of_ne hname heq] at hpage'
      exact hdoc.fit hpage'
  · dsimp only at hnone ⊢
    rw [BoundsTable.find?_set]
    by_cases heq : other = name
    · subst heq
      rw [hchanged] at hnone
      contradiction
    · rw [if_neg heq]
      rw [sheet?_modifySheet_of_ne hname heq] at hnone
      exact hdoc.absent hnone

/-- Writing a text keeps the table right: the text is noted, or the sheet scanned anew. -/
theorem Measured.write (hdoc : doc.Measured) (hpage : doc.book.sheet? name = some page)
    (pos : Coord) (text : String) (request : CellFormat) :
    (doc.write name pos text request).Measured := by
  have hname : ∀ p : BookSheet, ((p.setText pos text).applyFormat pos request).name = p.name :=
    fun _ => rfl
  obtain ⟨bounds, hfind, hfit⟩ := hdoc.fit hpage
  by_cases hempty : text.isEmpty = true
  · simp only [OpenBook.write, if_pos hempty, sheet?_modifySheet hpage hname]
    exact hdoc.replace hpage hname (RowBounds.fit_scan _)
  · simp only [OpenBook.write, if_neg hempty, hfind, Option.getD_some]
    have htext : text ≠ "" := fun h => hempty (String.isEmpty_iff.2 h)
    exact hdoc.replace hpage hname (hfit.note htext request)

/-- A format keeps the table right: no text changes. -/
theorem Measured.format (hdoc : doc.Measured) (hpage : doc.book.sheet? name = some page)
    (pos : Coord) (request : CellFormat) : (doc.format name pos request).Measured := by
  have hname : ∀ p : BookSheet, (p.applyFormat pos request).name = p.name := fun _ => rfl
  have hchanged := sheet?_modifySheet hpage hname
  refine ⟨fun {other page'} hpage' => ?_, fun {other} hnone => ?_⟩
  · dsimp only [OpenBook.format] at hpage' ⊢
    by_cases heq : other = name
    · subst heq
      rw [hchanged] at hpage'
      obtain rfl : page.applyFormat pos request = page' := by simpa using hpage'
      obtain ⟨bounds, hfind, hfit⟩ := hdoc.fit hpage
      exact ⟨bounds, hfind, hfit.congr fun other => page.text_applyFormat pos other request⟩
    · rw [sheet?_modifySheet_of_ne hname heq] at hpage'
      exact hdoc.fit hpage'
  · dsimp only [OpenBook.format] at hnone ⊢
    by_cases heq : other = name
    · subst heq
      rw [hchanged] at hnone
      contradiction
    · rw [sheet?_modifySheet_of_ne hname heq] at hnone
      exact hdoc.absent hnone

end OpenBook

end FillScript
