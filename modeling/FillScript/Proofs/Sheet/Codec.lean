import FillScript.Proofs.Json.Decoding
import FillScript.Proofs.Number.Digits
import FillScript.Proofs.Sparse
import FillScript.Proofs.Text.Joining
import FillScript.Sheet.Codec

/-!
# Workbooks are read as they were stored

What decoding makes of the stored form, record by record. Positions come back from their keys
(`coordOfKey?_keyOf`), formats from the fields that differ from the plain one, values from their
case and content (`CellValue.ofJson_toJson`), and the cells of a sheet without the empty ones
(`cellsOfJson_toJson`). With the JSON text read back, a workbook comes back without its empty cells
(`ofText_text`). A decoded workbook has none (`storesNoEmpty_of_ofText`), so that it comes back
unchanged.

A stored number comes back where its numeral is read as the number it was written for
(`NumbersReadBack`).
-/

namespace FillScript

open Json

/-! ## Keys -/

namespace Digits

theorem mem_toChars {ds : List Digit} {c : Char} (hc : c ∈ toChars ds) :
    Text.isBlank c = false ∧ c ≠ ',' := by
  obtain ⟨d, -, rfl⟩ := List.mem_map.1 hc
  clear hc
  revert d
  decide

/-- A 32-bit number is read back from its digits. -/
theorem readWord?_toChars {n : Nat} (hn : n < UInt32.size) :
    readWord? (toChars (ofNat n)) = some (UInt32.ofNat n) := by
  refine readWord?_eq_some_iff.2 ⟨ofNat n, ofNat_ne_nil n, .inl rfl, ?_⟩
  rw [value_ofNat, UInt32.toNat_ofNat_of_lt' hn]

end Digits

namespace Sheet

/-- A position comes back from its key. -/
theorem coordOfKey?_keyOf (pos : Coord) : coordOfKey? (keyOf pos) = some pos := by
  have hsep (ds : List Digit) : ',' ∉ Digits.toChars ds :=
    fun hmem => (Digits.mem_toChars hmem).2 rfl
  have htrim (ds : List Digit) : Text.trimmed (Digits.toChars ds) = Digits.toChars ds :=
    Text.trimmed_of_isBlank fun _ hc => (Digits.mem_toChars hc).1
  have hsplit : Text.splitFirst ',' (keyOf pos).toList =
      some (Digits.toChars (Digits.ofNat pos.row.toNat),
        Digits.toChars (Digits.ofNat pos.col.toNat)) := by
    rw [← Text.splitFirst_append (hsep _)]
    simp [keyOf, Digits.text]
  simp only [coordOfKey?, hsplit, Option.bind_eq_bind, Option.bind_some, htrim,
    Digits.readWord?_toChars pos.row.toNat_lt, Digits.readWord?_toChars pos.col.toNat_lt,
    UInt32.ofNat_toNat, Option.pure_def]

end Sheet

/-! ## Cells -/

theorem CellFormat.ofJson_toJson (format : CellFormat) : ofJson format.toJson = .ok format := by
  obtain ⟨wrap, align⟩ := format
  cases wrap <;> cases align <;> rfl

/-- Whether a value comes back from its stored form: a number has to be the one that its numeral is
read as. -/
def CellValue.ReadsBack (value : CellValue) : Prop :=
  ∀ x, value = .number x → x.stored.toBinary64? = some x

theorem CellValue.readsBack_number {x : Binary64} :
    (number x).ReadsBack ↔ x.stored.toBinary64? = some x := by
  refine ⟨fun hvalue => hvalue x rfl, fun hread y hy => ?_⟩
  obtain rfl : x = y := by simpa using hy
  exact hread

instance (value : CellValue) : Decidable value.ReadsBack :=
  match value with
  | .number _ => decidable_of_iff _ CellValue.readsBack_number.symm
  | .empty | .text _ | .boolean _ => .isTrue fun _ hnumber => by simp at hnumber

theorem CellValue.ofJson_toJson {value : CellValue} (hvalue : value.ReadsBack) :
    ofJson value.toJson = .ok value := by
  cases value with
  | empty => rfl
  | number x =>
    show ofContent .number (some (.number x.stored)) = _
    rw [ofContent, hvalue x rfl]
    rfl
  | text s => rfl
  | boolean b => rfl

theorem Cell.ofJson_toJson {cell : Cell} (hvalue : cell.value.ReadsBack) :
    ofJson cell.toJson = .ok cell := by
  have hread := CellValue.ofJson_toJson hvalue
  have hformat := CellFormat.ofJson_toJson cell.format
  simp [ofJson, toJson, ofEntries, foldEntries, hread, hformat, fillOnce, required, Except.map,
    bind, Except.bind, pure, Except.pure]

/-! ## Tables of cells -/

namespace Sheet

/-- A table with the cells of further entries that are not empty. -/
def addCells (cells : Sparse Coord Cell) (entries : List (Coord × Cell)) : Sparse Coord Cell :=
  entries.foldl
    (fun cells (pos, cell) => if cell.isEmpty then cells else cells.put pos (some cell)) cells

/-- Stored entries are taken over one by one. -/
theorem foldEntries_addEntry {entries : List (Coord × Cell)}
    (hvalues : ∀ entry ∈ entries, entry.2.value.ReadsBack) (cells : Sparse Coord Cell) :
    foldEntries addEntry cells (entries.map fun (pos, cell) => (some (keyOf pos), cell.toJson)) =
      .ok (addCells cells entries) := by
  induction entries generalizing cells with
  | nil => rfl
  | cons entry entries ih =>
    obtain ⟨pos, cell⟩ := entry
    have hcell := Cell.ofJson_toJson (hvalues (pos, cell) List.mem_cons_self)
    have hrest : ∀ entry ∈ entries, entry.2.value.ReadsBack :=
      fun entry hentry => hvalues entry (List.mem_cons_of_mem _ hentry)
    rw [List.map_cons, foldEntries, addEntry, hcell, coordOfKey?_keyOf]
    exact ih hrest _

/-- Of the entries added in ascending order, those that are not empty are found again. -/
theorem find?_addCells {entries : List (Coord × Cell)}
    (hascending : entries.Pairwise fun a b => rank a.1 < rank b.1) (cells : Sparse Coord Cell)
    (pos : Coord) :
    (addCells cells entries).find? pos =
      (Sparse.lookup (rank pos) (entries.filter fun entry => !entry.2.isEmpty)).or
        (cells.find? pos) := by
  induction entries generalizing cells with
  | nil => rfl
  | cons entry entries ih =>
    obtain ⟨key, cell⟩ := entry
    have hrest := List.pairwise_cons.1 hascending
    rw [addCells, List.foldl_cons, ← addCells]
    by_cases hempty : cell.isEmpty = true
    · simp only [if_pos hempty]
      rw [ih hrest.2, List.filter_cons_of_neg (by simp [hempty])]
    · simp only [if_neg hempty]
      rw [ih hrest.2, List.filter_cons_of_pos (by simp [hempty]), Sparse.lookup]
      by_cases hkey : key = pos
      · -- the later entries have other keys
        subst hkey
        have hlater : Sparse.lookup (rank key)
            (entries.filter fun entry => !entry.2.isEmpty) = none := by
          refine Sparse.lookup_eq_none fun entry hentry => ?_
          have hlt := hrest.1 entry (List.mem_filter.1 hentry).1
          exact Nat.ne_of_gt hlt
        rw [hlater, Sparse.find?_put_self, if_pos rfl]
        rfl
      · rw [Sparse.find?_put_of_ne fun h => hkey h.symm,
          if_neg fun hrank => hkey (Ranked.rank_injective hrank)]

/-- The cells of a table come back without the empty ones. -/
theorem cellsOfJson_toJson {cells : Sparse Coord Cell}
    (hvalues : ∀ entry ∈ cells.entries, entry.2.value.ReadsBack) :
    cellsOfJson (cellsToJson cells) = .ok (cells.filter fun _ cell => !cell.isEmpty) := by
  have hentries : cellsToJson cells =
      .object (cells.entries.map fun (pos, cell) => (some (keyOf pos), cell.toJson)) := by
    simp [cellsToJson, ofEntries, Function.comp_def]
  rw [hentries, cellsOfJson, foldEntries_addEntry hvalues]
  congr 1
  ext1 pos
  rw [find?_addCells cells.ascending, Sparse.find?_empty, Option.or_none]
  rfl

/-! ## Sheets and workbooks -/

/-- The sheet without the cells that are empty. -/
def withoutEmptyCells (sheet : Sheet) : Sheet :=
  { sheet with cells := sheet.cells.filter fun _ cell => !cell.isEmpty }

theorem ofJson_toJson {sheet : Sheet}
    (hvalues : ∀ entry ∈ sheet.cells.entries, entry.2.value.ReadsBack) :
    ofJson sheet.toJson = .ok sheet.withoutEmptyCells := by
  have hcells := cellsOfJson_toJson hvalues
  simp [ofJson, toJson, ofEntries, foldEntries, hcells, asText, fillOnce, required, Except.map,
    bind, Except.bind, pure, Except.pure, withoutEmptyCells]

end Sheet

namespace Workbook

/-- The workbook without the cells that are empty. -/
def withoutEmptyCells (workbook : Workbook) : Workbook :=
  { workbook with sheets := workbook.sheets.map Sheet.withoutEmptyCells }

/-- Every number in the workbook is the one that its numeral is read as. -/
def NumbersReadBack (workbook : Workbook) : Prop :=
  ∀ sheet ∈ workbook.sheets, ∀ entry ∈ sheet.cells.entries, entry.2.value.ReadsBack

instance (workbook : Workbook) : Decidable workbook.NumbersReadBack :=
  inferInstanceAs (Decidable (∀ sheet ∈ workbook.sheets, ∀ entry ∈ sheet.cells.entries,
    entry.2.value.ReadsBack))

theorem ofJson_toJson {workbook : Workbook} (hnumbers : workbook.NumbersReadBack) :
    ofJson workbook.toJson = .ok workbook.withoutEmptyCells := by
  have hsheets := asListOf_map fun sheet hsheet => Sheet.ofJson_toJson (hnumbers sheet hsheet)
  simp [ofJson, toJson, ofEntries, foldEntries, hsheets, asText, fillOnce, required, Except.map,
    bind, Except.bind, pure, Except.pure, withoutEmptyCells]

end Workbook

/-! ## Stored forms are data -/

theorem CellFormat.isData_toJson (format : CellFormat) : IsData format.toJson := by
  refine isData_ofEntries fun entry hentry => ?_
  rcases List.mem_append.1 hentry with hwrap | halign
  · split at hwrap
    · obtain rfl : entry = _ := by simpa using hwrap
      exact .bool true
    · simp at hwrap
  · split at halign
    · simp at halign
    · obtain rfl : entry = _ := by simpa using halign
      exact .string _

theorem CellValue.isData_toJson (value : CellValue) : IsData value.toJson := by
  refine isData_ofEntries fun entry hentry => ?_
  rcases List.mem_cons.1 hentry with rfl | hcontent
  · exact .string _
  · cases value with
    | empty => simp [content?] at hcontent
    | number x =>
      obtain rfl : entry = _ := by simpa [content?] using hcontent
      exact .number x.isProper_stored
    | text s =>
      obtain rfl : entry = _ := by simpa [content?] using hcontent
      exact .string s
    | boolean b =>
      obtain rfl : entry = _ := by simpa [content?] using hcontent
      exact .bool b

theorem Cell.isData_toJson (cell : Cell) : IsData cell.toJson := by
  refine isData_ofEntries fun entry hentry => ?_
  obtain rfl | rfl : entry = _ ∨ entry = _ := by simpa using hentry
  · exact cell.value.isData_toJson
  · exact cell.format.isData_toJson

theorem Sheet.isData_toJson (sheet : Sheet) : IsData sheet.toJson := by
  refine isData_ofEntries fun entry hentry => ?_
  obtain rfl | rfl : entry = _ ∨ entry = _ := by simpa using hentry
  · exact .string sheet.name
  · refine isData_ofEntries fun entry hentry => ?_
    obtain ⟨stored, -, rfl⟩ := List.mem_map.1 hentry
    exact stored.2.isData_toJson

theorem Workbook.isData_toJson (workbook : Workbook) : IsData workbook.toJson := by
  refine isData_ofEntries fun entry hentry => ?_
  obtain rfl | rfl : entry = _ ∨ entry = _ := by simpa using hentry
  · exact .string workbook.name
  · refine .array fun item hitem => ?_
    obtain ⟨sheet, -, rfl⟩ := List.mem_map.1 hitem
    exact sheet.isData_toJson

/-! ## Decoded workbooks store no empty cells -/

/-- A table of which no cell is empty. -/
def StoresNoEmpty (cells : Sparse Coord Cell) : Prop :=
  ∀ entry ∈ cells.entries, entry.2.isEmpty = false

instance (cells : Sparse Coord Cell) : Decidable (StoresNoEmpty cells) :=
  inferInstanceAs (Decidable (∀ entry ∈ cells.entries, entry.2.isEmpty = false))

theorem storesNoEmpty_empty : StoresNoEmpty .empty := by
  intro entry hentry
  simp [Sparse.empty] at hentry

namespace Sheet

/-- An entry that is taken over has a position and a cell. -/
theorem of_addEntry {cells cells' : Sparse Coord Cell} {key : String} {value : Json}
    (hadd : addEntry cells key value = .ok cells') :
    ∃ pos cell, coordOfKey? key = some pos ∧ Cell.ofJson value = .ok cell ∧
      cells' = if cell.isEmpty then cells else cells.put pos (some cell) := by
  unfold addEntry at hadd
  split at hadd
  · simp at hadd
  · next cell hcell =>
    split at hadd
    · simp at hadd
    · next pos hpos => exact ⟨pos, cell, hpos, hcell, (Except.ok.inj hadd).symm⟩

theorem storesNoEmpty_of_addEntry {cells cells' : Sparse Coord Cell} {key : String} {value : Json}
    (hcells : StoresNoEmpty cells) (hadd : addEntry cells key value = .ok cells') :
    StoresNoEmpty cells' := by
  obtain ⟨pos, cell, -, -, rfl⟩ := of_addEntry hadd
  by_cases hempty : cell.isEmpty = true
  · rw [if_pos hempty]
    exact hcells
  · rw [if_neg hempty]
    intro entry hentry
    rcases Sparse.mem_write hentry with hold | ⟨new, hnew, rfl⟩
    · exact hcells entry hold
    · obtain rfl : cell = new := by simpa using hnew
      simpa using hempty

theorem storesNoEmpty_of_cellsOfJson {value : Json} {cells : Sparse Coord Cell}
    (hcells : cellsOfJson value = .ok cells) : StoresNoEmpty cells := by
  cases value with
  | object entries =>
    exact foldEntries_preserves storesNoEmpty_of_addEntry storesNoEmpty_empty hcells
  | _ => simp [cellsOfJson] at hcells

theorem ofJson_object (entries : List (Option String × Json)) :
    ofJson (.object entries) =
      (foldEntries (pairEntry "name" "cells" asText cellsOfJson) (none, none) entries >>=
        fun fields => required fields.1 >>= fun name => .ok ⟨name, fields.2.getD .empty⟩) := by
  rw [ofJson]
  congr 1
  congr 1
  funext fields key json
  unfold pairEntry
  obtain ⟨first, second⟩ := fields
  dsimp only
  split
  · rfl
  · rfl
  · next hname hcells => rw [if_neg hname, if_neg hcells]

/-- A decoded sheet stores no empty cell. -/
theorem storesNoEmpty_of_ofJson {value : Json} {sheet : Sheet} (hsheet : ofJson value = .ok sheet) :
    StoresNoEmpty sheet.cells := by
  cases value with
  | object entries =>
    rw [ofJson_object] at hsheet
    obtain ⟨⟨name, cells⟩, hfields, hrest⟩ := bind_eq_ok.1 hsheet
    obtain ⟨name, -, hsheet⟩ := bind_eq_ok.1 hrest
    obtain rfl : _ = sheet := by simpa using hsheet
    cases cells with
    | none => exact storesNoEmpty_empty
    | some cells =>
      obtain ⟨json, hcells⟩ := second_of_foldEntries hfields rfl
      exact storesNoEmpty_of_cellsOfJson hcells
  | array items =>
    unfold ofJson at hsheet
    split at hsheet
    · contradiction
    · obtain ⟨name, -, hrest⟩ := bind_eq_ok.1 hsheet
      split at hrest
      · obtain rfl : _ = sheet := by simpa [pure, Except.pure] using hrest
        exact storesNoEmpty_empty
      · obtain ⟨cells, hcells, hrest⟩ := bind_eq_ok.1 hrest
        split at hrest
        · obtain rfl : _ = sheet := by simpa [pure, Except.pure] using hrest
          exact storesNoEmpty_of_cellsOfJson hcells
        · simp at hrest
    · simp at hsheet
  | _ => simp [ofJson] at hsheet

theorem withoutEmptyCells_eq {sheet : Sheet} (hcells : StoresNoEmpty sheet.cells) :
    sheet.withoutEmptyCells = sheet := by
  have hfilter : sheet.cells.filter (fun _ cell => !cell.isEmpty) = sheet.cells := by
    obtain ⟨name, entries, hascending⟩ := sheet
    simp only [Sparse.filter, Sparse.mk.injEq, List.filter_eq_self]
    intro entry hentry
    simp [hcells entry hentry]
  rw [withoutEmptyCells, hfilter]

end Sheet

namespace Workbook

theorem ofJson_object (entries : List (Option String × Json)) :
    ofJson (.object entries) =
      (foldEntries (pairEntry "name" "sheets" asText (asListOf Sheet.ofJson)) (none, none)
        entries >>= fun fields => required fields.1 >>= fun name =>
          required fields.2 >>= fun sheets => .ok ⟨name, sheets⟩) := by
  rw [ofJson]
  congr 1
  congr 1
  funext fields key json
  unfold pairEntry
  obtain ⟨first, second⟩ := fields
  dsimp only
  split
  · rfl
  · rfl
  · next hname hsheets => rw [if_neg hname, if_neg hsheets]

/-- No sheet of a decoded workbook stores an empty cell. -/
theorem storesNoEmpty_of_ofJson {value : Json} {workbook : Workbook}
    (hworkbook : ofJson value = .ok workbook) :
    ∀ sheet ∈ workbook.sheets, StoresNoEmpty sheet.cells := by
  suffices hdecoded : ∃ json, asListOf Sheet.ofJson json = .ok workbook.sheets by
    obtain ⟨json, hsheets⟩ := hdecoded
    exact forall_of_asListOf Sheet.storesNoEmpty_of_ofJson hsheets
  cases value with
  | object entries =>
    rw [ofJson_object] at hworkbook
    obtain ⟨fields, hfields, hrest⟩ := bind_eq_ok.1 hworkbook
    obtain ⟨name, -, hrest⟩ := bind_eq_ok.1 hrest
    obtain ⟨sheets, hsheets, hrest⟩ := bind_eq_ok.1 hrest
    obtain rfl : _ = workbook := by simpa using hrest
    exact second_of_foldEntries hfields (required_eq_ok hsheets)
  | array items =>
    unfold ofJson at hworkbook
    split at hworkbook
    · contradiction
    · obtain ⟨name, -, hrest⟩ := bind_eq_ok.1 hworkbook
      obtain ⟨sheets, hsheets, hrest⟩ := bind_eq_ok.1 hrest
      split at hrest
      · obtain rfl : _ = workbook := by simpa [pure, Except.pure] using hrest
        exact ⟨_, hsheets⟩
      · simp at hrest
    · simp at hworkbook
  | _ => simp [ofJson] at hworkbook

theorem withoutEmptyCells_eq {workbook : Workbook}
    (hcells : ∀ sheet ∈ workbook.sheets, StoresNoEmpty sheet.cells) :
    workbook.withoutEmptyCells = workbook := by
  have hsheets : workbook.sheets.map Sheet.withoutEmptyCells = workbook.sheets.map id :=
    List.map_congr_left fun sheet hsheet => Sheet.withoutEmptyCells_eq (hcells sheet hsheet)
  rw [withoutEmptyCells, hsheets, List.map_id]

/-! ## Texts -/

/-- Stored and read again, a workbook comes back without its empty cells. -/
theorem ofText_text_eq_withoutEmptyCells {workbook : Workbook}
    (hnumbers : workbook.NumbersReadBack) :
    ofText workbook.text = .ok workbook.withoutEmptyCells := by
  rw [ofText, text, decodeText_pretty _ workbook.isData_toJson, ofJson_toJson hnumbers]

/-- Where it has no empty cells, it comes back unchanged. -/
theorem ofText_text_eq_self {workbook : Workbook} (hnumbers : workbook.NumbersReadBack)
    (hcells : ∀ sheet ∈ workbook.sheets, StoresNoEmpty sheet.cells) :
    ofText workbook.text = .ok workbook := by
  rw [ofText_text_eq_withoutEmptyCells hnumbers, withoutEmptyCells_eq hcells]

/-- Stored and read again, a workbook comes back without its empty cells; one that was read from a
text comes back unchanged. -/
theorem ofText_text :
    (∀ workbook : Workbook, workbook.NumbersReadBack →
      ofText workbook.text = .ok workbook.withoutEmptyCells) ∧
    ∀ (s : String) (workbook : Workbook), ofText s = .ok workbook → workbook.NumbersReadBack →
      ofText workbook.text = .ok workbook :=
  ⟨fun _ hnumbers => ofText_text_eq_withoutEmptyCells hnumbers, fun _ _ hread hnumbers =>
    ofText_text_eq_self hnumbers (storesNoEmpty_of_ofJson (of_decodeText hread))⟩

/-- Two sheets of one name, with a number far down, a text that needs escapes and an empty cell that
was touched. -/
def accounts : Workbook :=
  ⟨"Accounts", [(((Sheet.blank "Q1").setCell ⟨0, 0⟩ ⟨.text "\"Sum\"\n\u0001", .plain⟩).setCell
    ⟨4294967295, 3⟩ ⟨.number ⟨true, (Magnitude.ofRatio? 3 2).getD .zero⟩, .styleHint⟩).touch ⟨2, 2⟩,
    Sheet.withHeader "Q1" ["Sum"]]⟩

theorem ofText_text_accounts :
    (accounts.NumbersReadBack ∧ ofText accounts.text = .ok accounts.withoutEmptyCells) ∧
      (ofText accounts.text = .ok accounts.withoutEmptyCells ∧
        accounts.withoutEmptyCells.NumbersReadBack ∧
        ofText accounts.withoutEmptyCells.text = .ok accounts.withoutEmptyCells) := by
  have hnumbers : accounts.NumbersReadBack := by decide +kernel
  have hkept : accounts.withoutEmptyCells.NumbersReadBack := by decide +kernel
  have hread := ofText_text.1 accounts hnumbers
  exact ⟨⟨hnumbers, hread⟩, hread, hkept, ofText_text.2 accounts.text _ hread hkept⟩

end Workbook

end FillScript
