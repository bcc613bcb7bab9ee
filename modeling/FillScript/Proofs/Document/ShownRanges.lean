import FillScript.Proofs.Document.SameDocument
import FillScript.Proofs.Document.UsedRanges
import FillScript.Proofs.Sheet.Codec

/-!
# Used ranges of workbooks and the texts that show

A workbook takes for used what has a value, a reader what shows a text. The two differ at an empty
text that is stored as a value (`Sheet.uses_iff_text_or`). No change of a cell stores one, and one
that puts a text in its place removes it (`Workbook.holdsEmptyText_changedBy`), but a workbook that
is read may hold some. So the used ranges are those of the texts and of the empty texts that are
held (`Workbook.isLast_lastUsedRow`, `Workbook.isLast_lastUsedCol`). Where none is left, they are
those of the texts alone, and the header ends with a title (`Workbook.shownRanges_changedBy`). Where
one is left, they can go further than any text (`Workbook.shownRanges_pier`).
-/

namespace FillScript

/-! ## Headers -/

theorem getLast?_indicesUpTo (last : UInt32) : (indicesUpTo last).getLast? = some last := by
  rw [indicesUpTo, List.getLast?_map, List.getLast?_range, if_neg (Nat.succ_ne_zero _)]
  simp

namespace Document

variable {δ : Type} [Document δ]

/-- The header that a document has by its used ranges and its texts. -/
def defaultHeader (doc : δ) (name : String) : List String :=
  match lastUsedCol doc name 0 with
  | some last => (indicesUpTo last).map fun col => text doc name ⟨0, col⟩
  | none => []

/-- A book has no other header. -/
example (doc : OpenBook) (name : String) : header doc name = defaultHeader doc name := rfl

/-- The header ends at the last used column. -/
theorem getLast?_defaultHeader (doc : δ) (name : String) :
    (defaultHeader doc name).getLast? =
      (lastUsedCol doc name 0).map fun col => text doc name ⟨0, col⟩ := by
  unfold defaultHeader
  cases lastUsedCol doc name 0 with
  | none => rfl
  | some last => rw [List.getLast?_map, getLast?_indicesUpTo]

end Document

/-! ## Values that do not show -/

/-- What is used shows a text or holds an empty one. -/
theorem Sheet.uses_iff_text_or (sheet : Sheet) (pos : Coord) :
    sheet.Uses pos ↔ sheet.text pos ≠ "" ∨ sheet.value pos = .text "" := by
  by_cases hempty : sheet.value pos = .text ""
  · simp [Uses, hempty, CellValue.isEmpty]
  · rw [Uses, text, Ne, CellValue.shown_eq_empty_iff hempty, or_iff_left hempty,
      Bool.not_eq_true]

namespace Workbook

/-- Whether an empty text is stored at a position of the sheet that a name stands for. -/
def HoldsEmptyText (workbook : Workbook) (name : String) (pos : Coord) : Prop :=
  ∃ sheet, workbook.sheet? name = some sheet ∧ sheet.value pos = .text ""

variable {workbook : Workbook} {name : String}

theorem holdsEmptyText_of_sheet? {sheet : Sheet} (hsheet : workbook.sheet? name = some sheet)
    (pos : Coord) : workbook.HoldsEmptyText name pos ↔ sheet.value pos = .text "" := by
  simp only [HoldsEmptyText, hsheet, Option.some.injEq, exists_eq_left']

/-- The last used row is the greatest one in which a text shows or an empty text is held. -/
theorem isLast_lastUsedRow (workbook : Workbook) (name : String) :
    IsLast (fun row => ∃ col, Document.text workbook name ⟨row, col⟩ ≠ "" ∨
      workbook.HoldsEmptyText name ⟨row, col⟩) (Document.lastUsedRow workbook name) := by
  cases hsheet : workbook.sheet? name with
  | none => simp [IsLast, Document.lastUsedRow, Document.text, HoldsEmptyText, hsheet]
  | some sheet =>
    rw [lastUsedRow_of_sheet? hsheet]
    refine sheet.isLast_lastUsedRow.congr fun row => exists_congr fun col => ?_
    rw [text_of_sheet? hsheet, holdsEmptyText_of_sheet? hsheet, Sheet.uses_iff_text_or]

/-- The last used column of a row is the greatest one in which a text shows or an empty text is
held. -/
theorem isLast_lastUsedCol (workbook : Workbook) (name : String) (row : UInt32) :
    IsLast (fun col => Document.text workbook name ⟨row, col⟩ ≠ "" ∨
      workbook.HoldsEmptyText name ⟨row, col⟩) (Document.lastUsedCol workbook name row) := by
  cases hsheet : workbook.sheet? name with
  | none => simp [IsLast, Document.lastUsedCol, Document.text, HoldsEmptyText, hsheet]
  | some sheet =>
    rw [lastUsedCol_of_sheet? hsheet]
    refine (sheet.isLast_lastUsedCol row).congr fun col => ?_
    rw [text_of_sheet? hsheet, holdsEmptyText_of_sheet? hsheet, Sheet.uses_iff_text_or]

/-- A workbook has the header of any document with its ranges and texts. -/
theorem header_eq_defaultHeader (workbook : Workbook) (name : String) :
    Document.header workbook name = Document.defaultHeader workbook name := by
  unfold Document.defaultHeader
  cases hsheet : workbook.sheet? name with
  | none => simp [Document.header, Document.lastUsedCol, hsheet]
  | some sheet =>
    simp only [header_of_sheet? hsheet, lastUsedCol_of_sheet? hsheet, text_of_sheet? hsheet]
    rfl

end Workbook

/-! ## One change -/

namespace CellChange

/-- The name of the sheet that a change is for. -/
def sheet : CellChange → String
  | text name _ _ _ => name
  | format name _ _ => name

/-- What a change makes of the sheet that it is for. -/
def apply : CellChange → Sheet → Sheet
  | text _ pos s request, live => (live.setText pos s).applyFormat pos request
  | format _ pos request, live => live.applyFormat pos request

/-- Whether a change puts a text at a position of a sheet. -/
def Overwrites (name : String) (pos : Coord) : CellChange → Prop
  | text sheet other _ _ => sheet = name ∧ other = pos
  | format _ _ _ => False

theorem name_apply (change : CellChange) (live : Sheet) : (change.apply live).name = live.name := by
  cases change <;> rfl

theorem sheet_of_overwrites {change : CellChange} {name : String} {pos : Coord}
    (hover : change.Overwrites name pos) : change.sheet = name := by
  cases change with
  | text _ _ _ _ => exact hover.1
  | format _ _ _ => exact hover.elim

/-- A change leaves the empty texts that it does not overwrite, and makes no other. -/
theorem value_apply_eq_iff (change : CellChange) (live : Sheet) (pos : Coord) :
    (change.apply live).value pos = .text "" ↔
      live.value pos = .text "" ∧ ¬change.Overwrites change.sheet pos := by
  cases change with
  | text name other s request =>
    rw [apply, Sheet.value, Sheet.cell_applyFormat_setText]
    by_cases heq : pos = other
    · simp [heq, sheet, Overwrites, CellValue.ofText_ne]
    · simp [heq, Ne.symm heq, Overwrites, Sheet.value]
  | format name other request =>
    simp [apply, Sheet.value_applyFormat, Overwrites]

end CellChange

namespace Workbook

variable {name : String}

/-- A change is made to the first sheet of its name; where there is none it is refused. -/
theorem changed_eq_modifySheet (workbook : Workbook) (change : CellChange) :
    Document.changed workbook change = workbook.modifySheet change.sheet change.apply := by
  have hrefused {target : String} (f : Sheet → Sheet) (hsheet : workbook.sheet? target = none) :
      workbook.modifySheet target f = workbook :=
    modifySheet_eq_self fun live hfound => by simp [hsheet] at hfound
  cases change with
  | text target pos s request =>
    simp only [Document.changed, Document.setText, Workbook.change, CellChange.sheet]
    cases hsheet : workbook.sheet? target with
    | none => exact (hrefused _ hsheet).symm
    | some _ => rfl
  | format target pos request =>
    simp only [Document.changed, Document.applyFormat, Workbook.change, CellChange.sheet]
    cases hsheet : workbook.sheet? target with
    | none => exact (hrefused _ hsheet).symm
    | some _ => rfl

/-- A change leaves the empty texts that it does not overwrite, and makes no other. -/
theorem holdsEmptyText_changed (workbook : Workbook) (change : CellChange) (pos : Coord) :
    (Document.changed workbook change).HoldsEmptyText name pos ↔
      workbook.HoldsEmptyText name pos ∧ ¬change.Overwrites name pos := by
  have hkind : ∀ live : Sheet, live.name = change.sheet → (change.apply live).name = change.sheet :=
    fun live hlive => (change.name_apply live).trans hlive
  rw [changed_eq_modifySheet]
  by_cases heq : name = change.sheet
  · subst heq
    rw [HoldsEmptyText, sheet?_modifySheet hkind]
    cases hsheet : workbook.sheet? change.sheet with
    | none => simp [HoldsEmptyText, hsheet]
    | some live => simp [holdsEmptyText_of_sheet? hsheet, change.value_apply_eq_iff]
  · have hnot : ¬change.Overwrites name pos := fun hover =>
      heq (CellChange.sheet_of_overwrites hover).symm
    rw [HoldsEmptyText, sheet?_modifySheet_of_ne hkind workbook heq, and_iff_left hnot]
    rfl

/-! ## All changes -/

/-- After changes those empty texts are held that were held before and that none of the changes
overwrites. -/
theorem holdsEmptyText_changedBy (workbook : Workbook) (changes : List CellChange) (pos : Coord) :
    (Document.changedBy workbook changes).HoldsEmptyText name pos ↔
      workbook.HoldsEmptyText name pos ∧ ∀ change ∈ changes, ¬change.Overwrites name pos := by
  induction changes generalizing workbook with
  | nil => simp [Document.changedBy]
  | cons change changes ih =>
    have hstep := ih (Document.changed workbook change)
    rw [Document.changedBy, List.foldl_cons, ← Document.changedBy, hstep,
      holdsEmptyText_changed, List.forall_mem_cons, and_assoc]

/-- Whatever changes are made to the cells of a workbook, if they overwrite the empty texts that a
sheet holds, the used ranges of the sheet are those of the texts that show, and its header is the
texts of row 0 up to the last that shows. -/
theorem shownRanges_changedBy {workbook : Workbook} {changes : List CellChange} {name : String}
    (hover : ∀ pos, workbook.HoldsEmptyText name pos →
      ∃ change ∈ changes, change.Overwrites name pos) :
    let doc := Document.changedBy workbook changes
    IsLast (fun row => ∃ col, Document.text doc name ⟨row, col⟩ ≠ "")
        (Document.lastUsedRow doc name) ∧
      (∀ row, IsLast (fun col => Document.text doc name ⟨row, col⟩ ≠ "")
        (Document.lastUsedCol doc name row)) ∧
      Document.header doc name = Document.defaultHeader doc name ∧
      ∀ title ∈ (Document.header doc name).getLast?, title ≠ "" := by
  intro doc
  have hnone (pos : Coord) : ¬doc.HoldsEmptyText name pos := by
    rw [holdsEmptyText_changedBy]
    rintro ⟨hheld, hkept⟩
    obtain ⟨change, hmem, hchange⟩ := hover pos hheld
    exact hkept change hmem hchange
  have hcol (row : UInt32) : IsLast (fun col => Document.text doc name ⟨row, col⟩ ≠ "")
      (Document.lastUsedCol doc name row) := by
    simpa only [hnone, or_false] using isLast_lastUsedCol doc name row
  refine ⟨?_, hcol, header_eq_defaultHeader doc name, fun title htitle => ?_⟩
  · simpa only [hnone, or_false] using isLast_lastUsedRow doc name
  · rw [header_eq_defaultHeader, Document.getLast?_defaultHeader, Option.mem_def,
      Option.map_eq_some_iff] at htitle
    obtain ⟨last, hlast, rfl⟩ := htitle
    have hfirst := hcol 0
    rw [hlast] at hfirst
    exact hfirst.1

/-- A sheet with an empty title, and an empty text in a row without others. -/
def quay : Sheet :=
  (Sheet.withHeader "Quay" ["Ship", ""]).setCell ⟨2, 0⟩ ⟨.text "", .plain⟩

def pier : Workbook :=
  ⟨"Pier", [quay]⟩

theorem sheet?_pier : pier.sheet? "Quay" = some quay := by
  decide

theorem value_quay (pos : Coord) :
    quay.value pos =
      if pos = ⟨2, 0⟩ ∨ pos = ⟨0, 1⟩ then .text "" else if pos = ⟨0, 0⟩ then .text "Ship"
      else .empty := by
  have hcell : quay.cell pos =
      if pos = ⟨2, 0⟩ then ⟨.text "", .plain⟩ else if pos = ⟨0, 1⟩ then ⟨.text "", .plain⟩
      else if pos = ⟨0, 0⟩ then ⟨.text "Ship", .plain⟩ else .blank := by
    simp only [quay, Sheet.withHeader, List.zipIdx_cons, List.zipIdx_nil, List.foldl_cons,
      List.foldl_nil, Sheet.cell_setCell]
    rfl
  rw [Sheet.value, hcell]
  split_ifs <;> simp_all [Cell.blank]

theorem ofText_text_pier : ofText pier.text = .ok pier :=
  ofText_text_eq_self (by decide +kernel) (by decide +kernel)

/-- Changes that name the title and clear the other place. -/
def pierChanges : List CellChange :=
  [.text "Quay" ⟨0, 1⟩ "Flag" .plain, .format "Quay" ⟨5, 5⟩ .styleHint,
    .text "Quay" ⟨2, 0⟩ "" .plain]

theorem shownRanges_changedBy_pier :
    ofText pier.text = .ok pier ∧
      (∀ pos, pier.HoldsEmptyText "Quay" pos →
        ∃ change ∈ pierChanges, change.Overwrites "Quay" pos) ∧
      let doc := Document.changedBy pier pierChanges
      IsLast (fun row => ∃ col, Document.text doc "Quay" ⟨row, col⟩ ≠ "") (some 0) ∧
        Document.header doc "Quay" = ["Ship", "Flag"] := by
  have hover (pos : Coord) (hheld : pier.HoldsEmptyText "Quay" pos) :
      ∃ change ∈ pierChanges, change.Overwrites "Quay" pos := by
    rw [holdsEmptyText_of_sheet? sheet?_pier, value_quay] at hheld
    by_cases hpos : pos = ⟨2, 0⟩ ∨ pos = ⟨0, 1⟩
    · rcases hpos with rfl | rfl
      · exact ⟨.text "Quay" ⟨2, 0⟩ "" .plain, by decide, rfl, rfl⟩
      · exact ⟨.text "Quay" ⟨0, 1⟩ "Flag" .plain, by decide, rfl, rfl⟩
    · rw [if_neg hpos] at hheld
      split_ifs at hheld
      exact absurd hheld (by decide)
  obtain ⟨hrow, -⟩ := shownRanges_changedBy hover
  have hlast : Document.lastUsedRow (Document.changedBy pier pierChanges) "Quay" = some 0 := by
    decide +kernel
  exact ⟨ofText_text_pier, hover, hlast ▸ hrow, by decide +kernel⟩

/-- As it is read, the sheet ends in a row without texts, and its header in an empty title. -/
theorem shownRanges_pier :
    ofText pier.text = .ok pier ∧
      (∀ pos, pos ≠ ⟨0, 0⟩ → Document.text pier "Quay" pos = "") ∧
      Document.lastUsedRow pier "Quay" = some 2 ∧
      Document.lastUsedCol pier "Quay" 0 = some 1 ∧
      Document.lastUsedCol pier "Quay" 2 = some 0 ∧
      Document.header pier "Quay" = ["Ship", ""] := by
  refine ⟨ofText_text_pier, fun pos hpos => ?_, by decide +kernel, by decide +kernel,
    by decide +kernel, by decide +kernel⟩
  rw [text_of_sheet? sheet?_pier, Sheet.text, value_quay, if_neg hpos]
  split_ifs <;> rfl

end Workbook

end FillScript
