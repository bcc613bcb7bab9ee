import FillScript.Proofs.Sheet.Codec

/-!
# Stored tables of cells

What any stored table of cells is read as. A position has many keys, with blanks, plus signs and
zeros in front of its numbers (`Sheet.Denotes`), and an entry stores its cell at the position if the
cell is not empty (`Sheet.Stores`). A table takes over what one entry after the other stores
(`Sheet.find?_of_addEntry`), so that it comes to have the last cell that is stored at a position
(`Sheet.find?_of_addEntries`). It is refused for the first key that denotes no position
(`Sheet.addEntries_eq_error_iff`).
-/

namespace FillScript.Sheet

open Json

/-! ## Keys -/

/-- Whether a key denotes a position: the first comma in it parts a row and a column, each perhaps
between blanks. -/
def Denotes (key : String) (pos : Coord) : Prop :=
  ∃ row col, key.toList = row ++ ',' :: col ∧ ',' ∉ row ∧
    Digits.SpellsWord (Text.trimmed row) pos.row ∧ Digits.SpellsWord (Text.trimmed col) pos.col

theorem coordOfKey?_eq_some_iff {key : String} {pos : Coord} :
    coordOfKey? key = some pos ↔ Denotes key pos := by
  obtain ⟨posRow, posCol⟩ := pos
  simp only [coordOfKey?, Option.bind_eq_bind, Option.bind_eq_some_iff, Prod.exists,
    Digits.readWord?_eq_some_iff_spellsWord, Option.pure_def, Option.some.injEq, Coord.mk.injEq]
  constructor
  · rintro ⟨row, col, hsplit, _, hrow, _, hcol, rfl, rfl⟩
    obtain ⟨hkey, hcomma⟩ := Text.append_of_splitFirst hsplit
    exact ⟨row, col, hkey, hcomma, hrow, hcol⟩
  · rintro ⟨row, col, hkey, hcomma, hrow, hcol⟩
    exact ⟨row, col, hkey ▸ Text.splitFirst_append hcomma col, _, hrow, _, hcol, rfl, rfl⟩

theorem coordOfKey?_eq_none_iff {key : String} :
    coordOfKey? key = none ↔ ¬∃ pos, Denotes key pos := by
  simp only [Option.eq_none_iff_forall_ne_some, Ne, coordOfKey?_eq_some_iff, not_exists]

instance (key : String) (pos : Coord) : Decidable (Denotes key pos) :=
  decidable_of_iff _ coordOfKey?_eq_some_iff

instance (key : String) : Decidable (∃ pos, Denotes key pos) :=
  decidable_of_iff (¬coordOfKey? key = none) (not_iff_comm.1 coordOfKey?_eq_none_iff.symm)

/-! ## One entry -/

/-- Whether an entry stores a cell at a position. Empty cells are not stored. -/
def Stores (entry : String × Json) (pos : Coord) (cell : Cell) : Prop :=
  Denotes entry.1 pos ∧ Cell.ofJson entry.2 = .ok cell ∧ cell.isEmpty = false

theorem stores_iff {entry : String × Json} {place : Coord} {stored : Cell}
    (hplace : coordOfKey? entry.1 = some place) (hstored : Cell.ofJson entry.2 = .ok stored)
    {pos : Coord} {cell : Cell} :
    Stores entry pos cell ↔ pos = place ∧ cell = stored ∧ cell.isEmpty = false := by
  rw [Stores, ← coordOfKey?_eq_some_iff, hplace, Option.some.injEq, hstored, Except.ok.injEq,
    eq_comm, eq_comm (a := stored)]

theorem not_stores_of_not_denotes {key : String} {pos : Coord} (hkey : ¬Denotes key pos)
    (value : Json) (cell : Cell) : ¬Stores (key, value) pos cell :=
  fun hstores => hkey hstores.1

/-- An empty cell is stored nowhere. -/
theorem not_stores_blank (key : String) (pos : Coord) (cell : Cell) :
    ¬Stores (key, Cell.blank.toJson) pos cell := by
  rintro ⟨-, hcell, hempty⟩
  rw [Cell.ofJson_toJson (by decide)] at hcell
  obtain rfl : Cell.blank = cell := Except.ok.inj hcell
  contradiction

theorem addEntry_of_ofJson {cells : Sparse Coord Cell} {key : String} {value : Json} {cell : Cell}
    (hcell : Cell.ofJson value = .ok cell) :
    addEntry cells key value =
      match coordOfKey? key with
      | none => .error (.cellKey key)
      | some pos => .ok (if cell.isEmpty then cells else cells.put pos (some cell)) := by
  cases hkey : coordOfKey? key <;> simp only [addEntry, hcell, hkey]

/-- After an entry, a table has its cell where it stores one, and what it had everywhere else. -/
theorem find?_of_addEntry {cells cells' : Sparse Coord Cell} {entry : String × Json}
    (hadd : addEntry cells entry.1 entry.2 = .ok cells') {pos : Coord} {cell : Cell} :
    cells'.find? pos = some cell ↔
      Stores entry pos cell ∨ (∀ other, ¬Stores entry pos other) ∧ cells.find? pos = some cell := by
  obtain ⟨place, stored, hplace, hstored, rfl⟩ := of_addEntry hadd
  simp only [stores_iff hplace hstored]
  by_cases hempty : stored.isEmpty = true
  · have hnone (other : Cell) : ¬(other = stored ∧ other.isEmpty = false) := by
      rintro ⟨rfl, hother⟩
      rw [hempty] at hother
      contradiction
    simp [hempty, hnone]
  · rw [if_neg hempty]
    by_cases hpos : pos = place
    · subst hpos
      rw [Sparse.find?_put_self]
      rw [Bool.not_eq_true] at hempty
      grind
    · rw [Sparse.find?_put_of_ne hpos]
      simp [hpos]

/-! ## All entries -/

/-- A table after further entries. -/
def addEntries (cells : Sparse Coord Cell) (entries : List (String × Json)) :
    Except ReadError (Sparse Coord Cell) :=
  foldEntries addEntry cells (entries.map fun (key, value) => (some key, value))

theorem cellsOfJson_ofEntries (entries : List (String × Json)) :
    cellsOfJson (.ofEntries entries) = addEntries .empty entries := rfl

/-- Whether a cell is the last one that entries store at a position. -/
def StoresLast (entries : List (String × Json)) (pos : Coord) (cell : Cell) : Prop :=
  ∃ before entry after, entries = before ++ entry :: after ∧ Stores entry pos cell ∧
    ∀ later ∈ after, ∀ other, ¬Stores later pos other

theorem storesLast_cons {entry : String × Json} {entries : List (String × Json)} {pos : Coord}
    {cell : Cell} :
    StoresLast (entry :: entries) pos cell ↔
      StoresLast entries pos cell ∨
        Stores entry pos cell ∧ ∀ later ∈ entries, ∀ other, ¬Stores later pos other := by
  constructor
  · rintro ⟨before, stored, after, hentries, hstored, hafter⟩
    cases before with
    | nil =>
      obtain ⟨rfl, rfl⟩ := List.cons.inj hentries
      exact .inr ⟨hstored, hafter⟩
    | cons first before =>
      obtain ⟨rfl, rfl⟩ := List.cons.inj hentries
      exact .inl ⟨before, stored, after, rfl, hstored, hafter⟩
  · rintro (⟨before, stored, after, rfl, hstored, hafter⟩ | ⟨hstored, hafter⟩)
    · exact ⟨entry :: before, stored, after, rfl, hstored, hafter⟩
    · exact ⟨[], entry, entries, rfl, hstored, hafter⟩

/-- Where an entry stores a cell, one of them is the last. -/
theorem exists_storesLast_iff (entries : List (String × Json)) (pos : Coord) :
    (∃ cell, StoresLast entries pos cell) ↔ ∃ entry ∈ entries, ∃ cell, Stores entry pos cell := by
  induction entries with
  | nil => simp [StoresLast]
  | cons entry entries ih =>
    simp only [storesLast_cons, exists_or, ih, List.exists_mem_cons_iff]
    grind

theorem addEntries_cons_eq_ok {cells cells' : Sparse Coord Cell} {entry : String × Json}
    {entries : List (String × Json)} :
    addEntries cells (entry :: entries) = .ok cells' ↔
      ∃ next, addEntry cells entry.1 entry.2 = .ok next ∧ addEntries next entries = .ok cells' :=
  foldEntries_cons_eq_ok

/-- After all entries, a table has the last cell that they store at a position, and what it had
where they store none. -/
theorem find?_of_addEntries {cells cells' : Sparse Coord Cell} {entries : List (String × Json)}
    (hadd : addEntries cells entries = .ok cells') {pos : Coord} {cell : Cell} :
    cells'.find? pos = some cell ↔
      StoresLast entries pos cell ∨
        (∀ entry ∈ entries, ∀ other, ¬Stores entry pos other) ∧ cells.find? pos = some cell := by
  induction entries generalizing cells with
  | nil =>
    obtain rfl : cells = cells' := Except.ok.inj hadd
    simp [StoresLast]
  | cons entry entries ih =>
    obtain ⟨next, hnext, hrest⟩ := addEntries_cons_eq_ok.1 hadd
    rw [ih hrest, find?_of_addEntry hnext, storesLast_cons, List.forall_mem_cons]
    tauto

/-- Whether a key is the first one in entries that denotes no position. -/
def FirstMalformed (entries : List (String × Json)) (key : String) : Prop :=
  ∃ before value after, entries = before ++ (key, value) :: after ∧
    (∀ earlier ∈ before, ∃ pos, Denotes earlier.1 pos) ∧ ¬∃ pos, Denotes key pos

theorem firstMalformed_cons {entry : String × Json} {entries : List (String × Json)}
    {key : String} :
    FirstMalformed (entry :: entries) key ↔
      (¬∃ pos, Denotes entry.1 pos) ∧ key = entry.1 ∨
        (∃ pos, Denotes entry.1 pos) ∧ FirstMalformed entries key := by
  constructor
  · rintro ⟨before, value, after, hentries, hbefore, hkey⟩
    cases before with
    | nil =>
      obtain ⟨rfl, rfl⟩ := List.cons.inj hentries
      exact .inl ⟨hkey, rfl⟩
    | cons first before =>
      obtain ⟨rfl, rfl⟩ := List.cons.inj hentries
      obtain ⟨hfirst, hbefore⟩ := List.forall_mem_cons.1 hbefore
      exact .inr ⟨hfirst, before, value, after, rfl, hbefore, hkey⟩
  · rintro (⟨hkey, rfl⟩ | ⟨hentry, before, value, after, rfl, hbefore, hkey⟩)
    · exact ⟨[], entry.2, entries, rfl, by simp, hkey⟩
    · exact ⟨entry :: before, value, after, rfl, List.forall_mem_cons.2 ⟨hentry, hbefore⟩, hkey⟩

/-! ## Tables whose values are cells -/

/-- Whether all values of a stored table are cells. -/
def HoldsCells (entries : List (String × Json)) : Prop :=
  ∀ entry ∈ entries, ∃ cell, Cell.ofJson entry.2 = .ok cell

instance : DecidablePred HoldsCells := fun entries =>
  decidable_of_iff (∀ entry ∈ entries, (Cell.ofJson entry.2).isOk = true) <| by
    refine forall₂_congr fun entry _ => ?_
    cases Cell.ofJson entry.2 <;> simp [Except.isOk, Except.toBool]

theorem addEntries_cons {cells : Sparse Coord Cell} {entry : String × Json} {cell : Cell}
    (hcell : Cell.ofJson entry.2 = .ok cell) (entries : List (String × Json)) :
    addEntries cells (entry :: entries) =
      match coordOfKey? entry.1 with
      | none => .error (.cellKey entry.1)
      | some pos =>
        addEntries (if cell.isEmpty then cells else cells.put pos (some cell)) entries := by
  rw [addEntries, List.map_cons, foldEntries, addEntry_of_ofJson hcell]
  cases coordOfKey? entry.1 <;> rfl

variable {cells : Sparse Coord Cell} {entries : List (String × Json)}

theorem exists_addEntries_eq_ok_iff (hvalues : HoldsCells entries) :
    (∃ cells', addEntries cells entries = .ok cells') ↔
      ∀ entry ∈ entries, ∃ pos, Denotes entry.1 pos := by
  induction entries generalizing cells with
  | nil => simp [addEntries, foldEntries]
  | cons entry entries ih =>
    obtain ⟨⟨cell, hcell⟩, hrest⟩ := List.forall_mem_cons.1 hvalues
    rw [addEntries_cons hcell, List.forall_mem_cons]
    cases hkey : coordOfKey? entry.1 with
    | none => simp [coordOfKey?_eq_none_iff.1 hkey]
    | some pos =>
      have hentry : ∃ pos, Denotes entry.1 pos := ⟨pos, coordOfKey?_eq_some_iff.1 hkey⟩
      simp only [hentry, true_and]
      exact ih hrest

/-- Entries are refused for the first key that denotes no position. -/
theorem addEntries_eq_error_iff (hvalues : HoldsCells entries) {e : ReadError} :
    addEntries cells entries = .error e ↔ ∃ key, FirstMalformed entries key ∧ e = .cellKey key := by
  induction entries generalizing cells with
  | nil => simp [addEntries, foldEntries, FirstMalformed]
  | cons entry entries ih =>
    obtain ⟨⟨cell, hcell⟩, hrest⟩ := List.forall_mem_cons.1 hvalues
    rw [addEntries_cons hcell]
    simp only [firstMalformed_cons]
    cases hkey : coordOfKey? entry.1 with
    | none => simp [coordOfKey?_eq_none_iff.1 hkey, eq_comm]
    | some pos =>
      have hentry : ∃ pos, Denotes entry.1 pos := ⟨pos, coordOfKey?_eq_some_iff.1 hkey⟩
      simp only [hentry, not_true_eq_false, false_and, false_or, true_and]
      exact ih hrest

/-- A stored table whose values are cells is decoded if all its keys denote positions. It then has
the last cell that is stored at a position, and none where none is stored. Otherwise it is refused
for the first key that denotes no position. -/
theorem cellsOfJson_grammar (hvalues : HoldsCells entries) :
    ((∃ cells, cellsOfJson (.ofEntries entries) = .ok cells) ↔
        ∀ entry ∈ entries, ∃ pos, Denotes entry.1 pos) ∧
      (∀ cells, cellsOfJson (.ofEntries entries) = .ok cells →
        StoresNoEmpty cells ∧
        (∀ pos cell, cells.find? pos = some cell ↔ StoresLast entries pos cell) ∧
        ∀ pos, cells.find? pos = none ↔ ∀ entry ∈ entries, ∀ cell, ¬Stores entry pos cell) ∧
      ∀ e, cellsOfJson (.ofEntries entries) = .error e ↔
        ∃ key, FirstMalformed entries key ∧ e = .cellKey key ∧
          e.message = "JSON error: invalid cell key '" ++ key ++ "'" := by
  refine ⟨?_, fun cells hcells => ?_, fun e => ?_⟩
  · rw [cellsOfJson_ofEntries]
    exact exists_addEntries_eq_ok_iff hvalues
  · have hadd : addEntries .empty entries = .ok cells := by rw [← cellsOfJson_ofEntries, hcells]
    have hfind (pos : Coord) (cell : Cell) :
        cells.find? pos = some cell ↔ StoresLast entries pos cell := by
      rw [find?_of_addEntries hadd, Sparse.find?_empty]
      simp
    refine ⟨storesNoEmpty_of_cellsOfJson hcells, hfind, fun pos => ?_⟩
    have hnone := not_congr (exists_storesLast_iff entries pos)
    simpa only [Option.eq_none_iff_forall_ne_some, Ne, hfind, not_exists, not_and] using hnone
  · rw [cellsOfJson_ofEntries, addEntries_eq_error_iff hvalues]
    refine exists_congr fun key => and_congr_right fun _ => ?_
    constructor
    · rintro rfl
      exact ⟨rfl, rfl⟩
    · rintro ⟨he, -⟩
      exact he

/-- A ship that was moved from the quay to the dock, under keys of one berth that was cleared before
and after, and another berth that is empty. -/
def berths : List (String × Json) :=
  [("1,2", Cell.toJson ⟨.text "quay", .plain⟩), (" +1 , 02", Cell.toJson ⟨.text "dock", .plain⟩),
    ("001,2", Cell.blank.toJson), ("3,4", Cell.blank.toJson)]

/-- More entries, two of them under keys that denote no position. -/
def misspelledBerths : List (String × Json) :=
  berths ++ [("1,2,3", Cell.blank.toJson), ("x", Cell.blank.toJson)]

theorem cellsOfJson_grammar_berths :
    (HoldsCells berths ∧ ∃ cells, cellsOfJson (.ofEntries berths) = .ok cells ∧
        cells.find? ⟨1, 2⟩ = some ⟨.text "dock", .plain⟩ ∧ cells.find? ⟨3, 4⟩ = none) ∧
      HoldsCells misspelledBerths ∧
        cellsOfJson (.ofEntries misspelledBerths) = .error (.cellKey "1,2,3") := by
  have hberths : HoldsCells berths := by decide
  have hmisspelled : HoldsCells misspelledBerths := by decide
  have hkeys : ∀ entry ∈ berths, ∃ pos, Denotes entry.1 pos := by decide
  obtain ⟨hok, hcells, -⟩ := cellsOfJson_grammar hberths
  obtain ⟨-, -, herror⟩ := cellsOfJson_grammar hmisspelled
  obtain ⟨cells, hdecoded⟩ := hok.2 hkeys
  obtain ⟨-, hsome, hnone⟩ := hcells cells hdecoded
  have hdock : StoresLast berths ⟨1, 2⟩ ⟨.text "dock", .plain⟩ :=
    ⟨[_], _, [_, _], rfl, ⟨by decide, Cell.ofJson_toJson (by decide), rfl⟩,
      by simp [not_stores_blank]⟩
  have hempty : ∀ entry ∈ berths, ∀ cell, ¬Stores entry ⟨3, 4⟩ cell := by
    have hquay := not_stores_of_not_denotes (show ¬Denotes "1,2" ⟨3, 4⟩ by decide)
    have hdock := not_stores_of_not_denotes (show ¬Denotes " +1 , 02" ⟨3, 4⟩ by decide)
    simp [berths, not_stores_blank, hquay, hdock]
  exact ⟨⟨hberths, cells, hdecoded, (hsome _ _).2 hdock, (hnone _).2 hempty⟩, hmisspelled,
    (herror _).2 ⟨_, ⟨berths, _, _, rfl, hkeys, by decide⟩, rfl, rfl⟩⟩

end FillScript.Sheet
