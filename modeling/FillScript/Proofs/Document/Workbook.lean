import FillScript.Document.Basic
import FillScript.Proofs.Sheet.Cells

/-!
# Workbooks with one sheet under change

A workbook changes one sheet at a time, the first of its name. The other sheets stay as they are
(`getElem?_modifySheet_of_later`), and changes of sheets of different names commute
(`modifySheet_comm`). `Workbook.withSheet` is a workbook in which the sheet of a name is another
one; the changes of a document lead from one such workbook to the next (`setText_withSheet`,
`applyFormat_withSheet`), and what is asked about the sheet is answered by the one in its place. Of
the cells of all sheets, those of the others are as before (`cellAt?_withSheet`).
-/

namespace FillScript

/-! ## Changing the first element of a kind -/

section

variable {α β : Type} {p : α → Bool} {f : α → α}

theorem modifyFirst_cons_of_pos {a : α} (ha : p a = true) (as : List α) :
    modifyFirst p f (a :: as) = f a :: as :=
  if_pos ha

theorem modifyFirst_cons_of_neg {a : α} (ha : ¬p a = true) (as : List α) :
    modifyFirst p f (a :: as) = a :: modifyFirst p f as :=
  if_neg ha

theorem find?_modifyFirst (hkind : ∀ a, p a = true → p (f a) = true) (as : List α) :
    (modifyFirst p f as).find? p = (as.find? p).map f := by
  induction as with
  | nil => rfl
  | cons a as ih =>
    by_cases ha : p a = true
    · rw [modifyFirst_cons_of_pos ha, List.find?_cons_of_pos ha,
        List.find?_cons_of_pos (hkind a ha), Option.map_some]
    · rw [modifyFirst_cons_of_neg ha, List.find?_cons_of_neg ha, List.find?_cons_of_neg ha, ih]

/-- Elements of another kind are found as before. -/
theorem find?_modifyFirst_of_disjoint {q : α → Bool}
    (hother : ∀ a, p a = true → ¬q a = true ∧ ¬q (f a) = true) (as : List α) :
    (modifyFirst p f as).find? q = as.find? q := by
  induction as with
  | nil => rfl
  | cons a as ih =>
    by_cases ha : p a = true
    · obtain ⟨hqa, hqfa⟩ := hother a ha
      rw [modifyFirst_cons_of_pos ha, List.find?_cons_of_neg hqa, List.find?_cons_of_neg hqfa]
    · rw [modifyFirst_cons_of_neg ha, List.find?_cons, List.find?_cons, ih]

/-- Of the elements of a kind, the first is changed. -/
theorem filter_modifyFirst (hkind : ∀ a, p a = true → p (f a) = true) (as : List α) :
    (modifyFirst p f as).filter p = (as.filter p).modifyHead f := by
  induction as with
  | nil => rfl
  | cons a as ih =>
    by_cases ha : p a = true
    · rw [modifyFirst_cons_of_pos ha, List.filter_cons_of_pos (hkind a ha),
        List.filter_cons_of_pos ha, List.modifyHead_cons]
    · rw [modifyFirst_cons_of_neg ha, List.filter_cons_of_neg ha, List.filter_cons_of_neg ha, ih]

/-- The elements of another kind stay as they are. -/
theorem filter_modifyFirst_of_disjoint {q : α → Bool}
    (hother : ∀ a, p a = true → ¬q a = true ∧ ¬q (f a) = true) (as : List α) :
    (modifyFirst p f as).filter q = as.filter q := by
  induction as with
  | nil => rfl
  | cons a as ih =>
    by_cases ha : p a = true
    · obtain ⟨hqa, hqfa⟩ := hother a ha
      rw [modifyFirst_cons_of_pos ha, List.filter_cons_of_neg hqa, List.filter_cons_of_neg hqfa]
    · rw [modifyFirst_cons_of_neg ha, List.filter_cons, List.filter_cons, ih]

theorem map_modifyFirst {g : α → β} (hsame : ∀ a, p a = true → g (f a) = g a) (as : List α) :
    (modifyFirst p f as).map g = as.map g := by
  induction as with
  | nil => rfl
  | cons a as ih =>
    by_cases ha : p a = true
    · rw [modifyFirst_cons_of_pos ha, List.map_cons, List.map_cons, hsame a ha]
    · rw [modifyFirst_cons_of_neg ha, List.map_cons, List.map_cons, ih]

theorem modifyFirst_modifyFirst {g : α → α} (hkind : ∀ a, p a = true → p (f a) = true)
    (as : List α) :
    modifyFirst p g (modifyFirst p f as) = modifyFirst p (fun a => g (f a)) as := by
  induction as with
  | nil => rfl
  | cons a as ih =>
    by_cases ha : p a = true
    · rw [modifyFirst_cons_of_pos ha, modifyFirst_cons_of_pos (hkind a ha),
        modifyFirst_cons_of_pos ha]
    · rw [modifyFirst_cons_of_neg ha, modifyFirst_cons_of_neg ha, modifyFirst_cons_of_neg ha, ih]

/-- What the change makes of the first element of a kind is all that matters. -/
theorem modifyFirst_congr {g : α → α} {as : List α}
    (hsame : ∀ a, as.find? p = some a → f a = g a) : modifyFirst p f as = modifyFirst p g as := by
  induction as with
  | nil => rfl
  | cons a as ih =>
    by_cases ha : p a = true
    · rw [modifyFirst_cons_of_pos ha, modifyFirst_cons_of_pos ha,
        hsame a (List.find?_cons_of_pos ha)]
    · rw [List.find?_cons_of_neg ha] at hsame
      rw [modifyFirst_cons_of_neg ha, modifyFirst_cons_of_neg ha, ih hsame]

theorem modifyFirst_id (as : List α) : modifyFirst p id as = as := by
  induction as with
  | nil => rfl
  | cons a as ih =>
    by_cases ha : p a = true
    · exact modifyFirst_cons_of_pos ha as
    · rw [modifyFirst_cons_of_neg ha, ih]

/-- A change of what is not there, or one that leaves it as it is, changes nothing. -/
theorem modifyFirst_eq_self {as : List α} (hsame : ∀ a, as.find? p = some a → f a = a) :
    modifyFirst p f as = as :=
  (modifyFirst_congr hsame).trans (modifyFirst_id as)

/-- Changes of elements of different kinds commute. -/
theorem modifyFirst_comm {q : α → Bool} {g : α → α}
    (hp : ∀ a, p a = true → ¬q a = true ∧ ¬q (f a) = true)
    (hq : ∀ a, q a = true → ¬p a = true ∧ ¬p (g a) = true) (as : List α) :
    modifyFirst p f (modifyFirst q g as) = modifyFirst q g (modifyFirst p f as) := by
  induction as with
  | nil => rfl
  | cons a as ih =>
    by_cases ha : p a = true
    · obtain ⟨hqa, hqfa⟩ := hp a ha
      rw [modifyFirst_cons_of_neg hqa, modifyFirst_cons_of_pos ha, modifyFirst_cons_of_pos ha,
        modifyFirst_cons_of_neg hqfa]
    · by_cases hqa : q a = true
      · have hpga := (hq a hqa).2
        rw [modifyFirst_cons_of_pos hqa, modifyFirst_cons_of_neg ha, modifyFirst_cons_of_pos hqa,
          modifyFirst_cons_of_neg hpga]
      · rw [modifyFirst_cons_of_neg hqa, modifyFirst_cons_of_neg ha, modifyFirst_cons_of_neg ha,
          modifyFirst_cons_of_neg hqa, ih]

/-- What is at every index after the first element of a kind was changed. -/
theorem getElem?_modifyFirst (as : List α) (i : Nat) :
    (modifyFirst p f as)[i]? = if as.findIdx? p = some i then as[i]?.map f else as[i]? := by
  induction as generalizing i with
  | nil => simp [modifyFirst]
  | cons a as ih =>
    rw [List.findIdx?_cons]
    by_cases ha : p a = true
    · rw [modifyFirst_cons_of_pos ha, if_pos ha]
      cases i with
      | zero => simp
      | succ i => simp
    · rw [modifyFirst_cons_of_neg ha, if_neg ha]
      cases i with
      | zero => simp
      | succ i =>
        rw [List.getElem?_cons_succ, List.getElem?_cons_succ, ih]
        simp

/-- Elements of another kind, and those with one of the kind before them, stay as they are. -/
theorem getElem?_modifyFirst_of_later {as : List α} {i : Nat} {a : α} (ha : as[i]? = some a)
    (hother : ¬p a = true ∨ ∃ b ∈ as.take i, p b = true) :
    (modifyFirst p f as)[i]? = some a := by
  have hlater : as.findIdx? p ≠ some i := by
    intro hfirst
    obtain ⟨hlt, hp, hbefore⟩ := List.findIdx?_eq_some_iff_getElem.1 hfirst
    obtain rfl : as[i] = a := by simpa [hlt] using ha
    rcases hother with hnot | ⟨b, hmem, hb⟩
    · exact hnot hp
    · obtain ⟨j, hj, rfl⟩ := List.mem_take_iff_getElem.1 hmem
      exact hbefore j (by omega) hb
  rw [getElem?_modifyFirst, if_neg hlater, ha]

end

namespace Workbook

/-! ## Sheets by name -/

theorem name_of_sheet? {workbook : Workbook} {name : String} {sheet : Sheet}
    (hsheet : workbook.sheet? name = some sheet) : sheet.name = name := by
  have := List.find?_some hsheet
  simpa using this

theorem hasSheet_iff {workbook : Workbook} {name : String} :
    Document.hasSheet workbook name = true ↔ ∃ sheet, workbook.sheet? name = some sheet := by
  rw [← Option.isSome_iff_exists, sheet?, List.find?_isSome]
  simp only [Document.hasSheet, Document.sheetNames, sheetNames, List.contains_iff_mem,
    List.mem_map, beq_iff_eq]

theorem hasSheet_iff_mem {workbook : Workbook} {name : String} :
    Document.hasSheet workbook name = true ↔ name ∈ workbook.sheetNames :=
  List.contains_iff_mem

/-! ## Changed sheets -/

theorem modifySheet_congr {workbook : Workbook} {name : String} {f g : Sheet → Sheet}
    (hsame : ∀ sheet, workbook.sheet? name = some sheet → f sheet = g sheet) :
    workbook.modifySheet name f = workbook.modifySheet name g := by
  simp only [modifySheet, modifyFirst_congr hsame]

theorem modifySheet_eq_self {workbook : Workbook} {name : String} {f : Sheet → Sheet}
    (hsame : ∀ sheet, workbook.sheet? name = some sheet → f sheet = sheet) :
    workbook.modifySheet name f = workbook := by
  simp only [modifySheet, modifyFirst_eq_self hsame]

/-- A sheet with an index stays as it is if another name is changed, or if a sheet before it has its
name. -/
theorem getElem?_modifySheet_of_later {workbook : Workbook} {name : String} {f : Sheet → Sheet}
    {i : Nat} {sheet : Sheet} (hsheet : workbook.sheets[i]? = some sheet)
    (hother : sheet.name ≠ name ∨ sheet.name ∈ workbook.sheetNames.take i) :
    (workbook.modifySheet name f).sheets[i]? = some sheet := by
  refine getElem?_modifyFirst_of_later hsheet ?_
  by_cases heq : sheet.name = name
  · rcases hother with hne | hearlier
    · exact absurd heq hne
    · rw [sheetNames, ← List.map_take, List.mem_map] at hearlier
      obtain ⟨earlier, hmem, hname⟩ := hearlier
      exact .inr ⟨earlier, hmem, beq_iff_eq.2 (hname.trans heq)⟩
  · exact .inl fun hname => heq (beq_iff_eq.1 hname)

section

variable {name : String} {f : Sheet → Sheet}
  (hf : ∀ sheet, sheet.name = name → (f sheet).name = name)
include hf

theorem sheet?_modifySheet (workbook : Workbook) :
    (workbook.modifySheet name f).sheet? name = (workbook.sheet? name).map f := by
  refine find?_modifyFirst (fun sheet hsheet => ?_) workbook.sheets
  rw [beq_iff_eq] at hsheet ⊢
  exact hf sheet hsheet

/-- Sheets of other names stay as they are. -/
theorem sheet?_modifySheet_of_ne (workbook : Workbook) {other : String} (hne : other ≠ name) :
    (workbook.modifySheet name f).sheet? other = workbook.sheet? other := by
  refine find?_modifyFirst_of_disjoint (fun sheet hsheet => ?_) workbook.sheets
  rw [beq_iff_eq] at hsheet
  rw [beq_iff_eq, beq_iff_eq, hsheet, hf sheet hsheet]
  exact ⟨hne.symm, hne.symm⟩

theorem sheetNames_modifySheet (workbook : Workbook) :
    (workbook.modifySheet name f).sheetNames = workbook.sheetNames := by
  refine map_modifyFirst (fun sheet hsheet => ?_) workbook.sheets
  rw [beq_iff_eq] at hsheet
  rw [hf sheet hsheet, hsheet]

/-- Changes of sheets of different names commute. -/
theorem modifySheet_comm (workbook : Workbook) {other : String} {g : Sheet → Sheet}
    (hg : ∀ sheet, sheet.name = other → (g sheet).name = other) (hne : other ≠ name) :
    (workbook.modifySheet other g).modifySheet name f =
      (workbook.modifySheet name f).modifySheet other g := by
  have hleft : ∀ sheet : Sheet, (sheet.name == name) = true →
      ¬(sheet.name == other) = true ∧ ¬((f sheet).name == other) = true := by
    intro sheet hsheet
    rw [beq_iff_eq] at hsheet
    rw [beq_iff_eq, beq_iff_eq, hsheet, hf sheet hsheet]
    exact ⟨hne.symm, hne.symm⟩
  have hright : ∀ sheet : Sheet, (sheet.name == other) = true →
      ¬(sheet.name == name) = true ∧ ¬((g sheet).name == name) = true := by
    intro sheet hsheet
    rw [beq_iff_eq] at hsheet
    rw [beq_iff_eq, beq_iff_eq, hsheet, hg sheet hsheet]
    exact ⟨hne, hne⟩
  simp only [modifySheet, modifyFirst_comm hleft hright]

end

/-- The workbook with another sheet in the place of the one that a name stands for. -/
def withSheet (workbook : Workbook) (name : String) (sheet : Sheet) : Workbook :=
  workbook.modifySheet name fun _ => sheet

theorem withSheet_self {workbook : Workbook} {name : String} {sheet : Sheet}
    (hsheet : workbook.sheet? name = some sheet) : workbook.withSheet name sheet = workbook :=
  modifySheet_eq_self fun _ hfound => Option.some.inj (hsheet.symm.trans hfound)

theorem withSheet_eq_modifySheet {workbook : Workbook} {name : String} {sheet : Sheet}
    (hsheet : workbook.sheet? name = some sheet) (f : Sheet → Sheet) :
    workbook.withSheet name (f sheet) = workbook.modifySheet name f :=
  modifySheet_congr fun _ hfound => congrArg f (Option.some.inj (hsheet.symm.trans hfound))

theorem sheet?_withSheet {workbook : Workbook} {name : String} {sheet live : Sheet}
    (hsheet : workbook.sheet? name = some sheet) (hname : live.name = name) :
    (workbook.withSheet name live).sheet? name = some live := by
  rw [withSheet, sheet?_modifySheet (fun _ _ => hname), hsheet, Option.map_some]

theorem modifySheet_withSheet {workbook : Workbook} {name : String} {live : Sheet}
    (hname : live.name = name) (f : Sheet → Sheet) :
    (workbook.withSheet name live).modifySheet name f = workbook.withSheet name (f live) := by
  have hkind : ∀ s : Sheet, (s.name == name) = true → (live.name == name) = true :=
    fun _ _ => by simp only [hname, beq_self_eq_true]
  simp only [withSheet, modifySheet, modifyFirst_modifyFirst hkind]

/-! ## What is asked about a sheet -/

section

variable {workbook : Workbook} {name : String} {sheet : Sheet}
  (hsheet : workbook.sheet? name = some sheet)
include hsheet

theorem text_of_sheet? (pos : Coord) : Document.text workbook name pos = sheet.text pos := by
  simp only [Document.text, hsheet, Option.map_some, Option.getD_some]

theorem header_of_sheet? : Document.header workbook name = sheet.header := by
  simp only [Document.header, hsheet, Option.map_some, Option.getD_some]

theorem lastUsedRow_of_sheet? : Document.lastUsedRow workbook name = sheet.lastUsedRow := by
  simp only [Document.lastUsedRow, hsheet, Option.bind_some]

theorem lastUsedCol_of_sheet? (row : UInt32) :
    Document.lastUsedCol workbook name row = sheet.lastUsedCol row := by
  simp only [Document.lastUsedCol, hsheet, Option.bind_some]

end

/-! ## The document with a sheet in its place -/

section

variable {workbook : Workbook} {name : String} {sheet live : Sheet}
  (hsheet : workbook.sheet? name = some sheet) (hname : live.name = name)
include hsheet hname

theorem change_withSheet (f : Sheet → Sheet) :
    (workbook.withSheet name live).change name f = .ok (workbook.withSheet name (f live)) := by
  rw [change, sheet?_withSheet hsheet hname, modifySheet_withSheet hname]

theorem header_withSheet :
    Document.header (workbook.withSheet name live) name = live.header :=
  header_of_sheet? (sheet?_withSheet hsheet hname)

theorem lastUsedRow_withSheet :
    Document.lastUsedRow (workbook.withSheet name live) name = live.lastUsedRow :=
  lastUsedRow_of_sheet? (sheet?_withSheet hsheet hname)

theorem setText_withSheet (pos : Coord) (text : String) (request : CellFormat) :
    Document.setText (workbook.withSheet name live) name pos text request =
      .ok (workbook.withSheet name ((live.setText pos text).applyFormat pos request)) :=
  change_withSheet hsheet hname _

theorem applyFormat_withSheet (pos : Coord) (request : CellFormat) :
    Document.applyFormat (workbook.withSheet name live) name pos request =
      .ok (workbook.withSheet name (live.applyFormat pos request)) :=
  change_withSheet hsheet hname _

end

/-! ## Cells of all sheets -/

/-- The index of the sheet that a name stands for. -/
def sheetIndex? (workbook : Workbook) (name : String) : Option Nat :=
  workbook.sheetNames.findIdx? (· == name)

/-- The stored cell at a position of the sheet with an index. -/
def cellAt? (workbook : Workbook) (i : Nat) (pos : Coord) : Option Cell :=
  workbook.sheets[i]?.bind (·.cell? pos)

theorem sheetIndex?_eq_findIdx? (workbook : Workbook) (name : String) :
    workbook.sheetIndex? name = workbook.sheets.findIdx? (·.name == name) :=
  List.findIdx?_map

theorem sheetIndex?_eq_none_iff {workbook : Workbook} {name : String} :
    workbook.sheetIndex? name = none ↔ workbook.sheet? name = none := by
  rw [sheetIndex?_eq_findIdx?, sheet?, List.findIdx?_eq_none_iff, List.find?_eq_none]
  simp only [Bool.not_eq_true]

theorem exists_sheetIndex?_of_hasSheet {workbook : Workbook} {name : String}
    (hsheet : Document.hasSheet workbook name = true) :
    ∃ i, workbook.sheetIndex? name = some i := by
  obtain ⟨sheet, hfound⟩ := hasSheet_iff.1 hsheet
  refine Option.ne_none_iff_exists'.1 fun hnone => ?_
  rw [sheetIndex?_eq_none_iff, hfound] at hnone
  contradiction

section

variable {workbook : Workbook} {name : String} {i : Nat}
  (hindex : workbook.sheetIndex? name = some i)
include hindex

theorem exists_sheet_of_sheetIndex? :
    ∃ sheet, workbook.sheets[i]? = some sheet ∧ workbook.sheet? name = some sheet := by
  rw [sheetIndex?_eq_findIdx?, List.findIdx?_eq_some_iff_getElem] at hindex
  obtain ⟨hlt, hname, hbefore⟩ := hindex
  refine ⟨workbook.sheets[i], List.getElem?_eq_getElem hlt, ?_⟩
  rw [sheet?, List.find?_eq_some_iff_getElem]
  exact ⟨hname, i, hlt, rfl, fun j hj => by simpa using hbefore j hj⟩

theorem text_eq_cellAt? (pos : Coord) :
    Document.text workbook name pos = ((workbook.cellAt? i pos).getD .blank).value.shown := by
  obtain ⟨sheet, hat, hsheet⟩ := exists_sheet_of_sheetIndex? hindex
  rw [text_of_sheet? hsheet, cellAt?, hat]
  rfl

/-- The cells of all sheets when another sheet is in the place of the one with a name. -/
theorem cellAt?_withSheet (live : Sheet) (j : Nat) (pos : Coord) :
    (workbook.withSheet name live).cellAt? j pos =
      if j = i then live.cell? pos else workbook.cellAt? j pos := by
  obtain ⟨sheet, hat, -⟩ := exists_sheet_of_sheetIndex? hindex
  rw [sheetIndex?_eq_findIdx?] at hindex
  simp only [cellAt?, withSheet, modifySheet, getElem?_modifyFirst, hindex, Option.some.injEq]
  by_cases hj : j = i
  · subst hj
    rw [if_pos rfl, if_pos rfl, hat]
    rfl
  · rw [if_neg fun h => hj h.symm, if_neg hj]

end

end Workbook

end FillScript
