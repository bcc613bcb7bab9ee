import FillScript.Proofs.Fill.Replay
import FillScript.Proofs.Fill.Search
import FillScript.Proofs.Fill.Writing
import FillScript.Proofs.Sheet.Columns

/-!
# Two sessions side by side

Two sessions on sheets of workbooks go side by side (`Session.Paired`) if they have the same
columns to fill, the same last row and the same counts, and if a permutation `p` of the columns
leads from the column that one has for a title to the one that the other has. Their cursors are then
the same but for the column (`Cursor.movedBy`). Writing and adding a line on both sides keeps them
side by side (`Paired.write`, `Paired.append`), and so does a search, if the columns that are
searched have the same texts (`Paired.findInColumn`).

What the two sheets have to do with each other is not said here: that depends on which sessions are
compared.
-/

namespace FillScript

/-! ## Moved cursors -/

namespace Cursor

/-- The cursor in the same row and the column that `p` moves its column to. -/
def movedBy (p : Equiv.Perm UInt32) (c : Cursor) : Cursor where
  row := c.row
  col :=
    match Coord.word? c.col with
    | some col => (p col).toNat
    | none => c.col

theorem word?_movedBy (p : Equiv.Perm UInt32) (c : Cursor) :
    Coord.word? (c.movedBy p).col = (Coord.word? c.col).map p := by
  unfold movedBy
  cases hcol : Coord.word? c.col with
  | none => exact hcol
  | some col => exact Coord.word?_toNat (p col)

@[simp]
theorem movedBy_refl (c : Cursor) : c.movedBy (.refl _) = c := by
  obtain ⟨row, col⟩ := c
  unfold movedBy
  cases hcol : Coord.word? col with
  | none => rfl
  | some word =>
    simp only [mk.injEq, true_and]
    exact (Coord.eq_toNat_of_word? hcol).symm

theorem coord?_eq_bind (c : Cursor) :
    c.coord? =
      (Coord.word? c.row).bind fun row => (Coord.word? c.col).map fun col => ⟨row, col⟩ := by
  rw [coord?, Coord.ofInts?]
  cases Coord.word? c.row with
  | none => rfl
  | some row =>
    cases Coord.word? c.col with
    | none => rfl
    | some col => rfl

/-- At cursors in the same row with their columns moved are cells with their columns moved. -/
theorem coord?_of_moved {p : Equiv.Perm UInt32} {c c' : Cursor} (hrow : c'.row = c.row)
    (hcol : Coord.word? c'.col = (Coord.word? c.col).map p) :
    c'.coord? = c.coord?.map (·.movedBy p) := by
  rw [coord?_eq_bind, coord?_eq_bind, hrow, hcol]
  cases Coord.word? c.row with
  | none => rfl
  | some row =>
    cases Coord.word? c.col with
    | none => rfl
    | some col => rfl

theorem coord?_movedBy (p : Equiv.Perm UInt32) (c : Cursor) :
    (c.movedBy p).coord? = c.coord?.map (·.movedBy p) :=
  coord?_of_moved rfl (c.word?_movedBy p)

theorem movedBy_of_some {p : Equiv.Perm UInt32} {c : Cursor} {col : UInt32}
    (hcol : Coord.word? c.col = some col) : c.movedBy p = ⟨c.row, (p col).toNat⟩ := by
  rw [movedBy, hcol]

theorem movedBy_of_none {p : Equiv.Perm UInt32} {c : Cursor} (hcol : Coord.word? c.col = none) :
    c.movedBy p = c := by
  rw [movedBy, hcol]

theorem ofHit_movedBy (p : Equiv.Perm UInt32) (hit : Option Coord) :
    ofHit (hit.map (·.movedBy p)) = (ofHit hit).movedBy p := by
  cases hit with
  | none =>
    have hlost : Coord.word? lost.col = none :=
      Coord.word?_of_neg (show (-1 : Int) < 0 by decide)
    exact (movedBy_of_none hlost).symm
  | some pos =>
    have hcol : Coord.word? (ofCoord pos).col = some pos.col := Coord.word?_toNat pos.col
    exact (movedBy_of_some hcol).symm

end Cursor

/-- The state with its cursor moved. -/
def ScriptState.movedBy (p : Equiv.Perm UInt32) (state : ScriptState) : ScriptState :=
  { state with cursor := state.cursor.movedBy p }

@[simp]
theorem ScriptState.movedBy_refl (state : ScriptState) : state.movedBy (.refl _) = state := by
  rw [movedBy, Cursor.movedBy_refl]

/-! ## Sessions side by side -/

namespace Session

/-- Sessions on sheets of two workbooks that have the same setting, but for the order of the
columns, and have counted the same. -/
structure Paired (p : Equiv.Perm UInt32) (workbook workbook' : Workbook) (live live' : Sheet)
    (s t : Session Workbook) : Prop where
  left : On workbook live s
  right : On workbook' live' t
  fillColumns : t.fillColumns = s.fillColumns
  lastRow : t.lastRow = s.lastRow
  columnOf : ∀ title, title ≠ "" →
    Coord.word? (t.columnOf title) = (Coord.word? (s.columnOf title)).map p
  stats : t.stats = s.stats

namespace Paired

variable {p : Equiv.Perm UInt32} {workbook workbook' : Workbook} {live live' : Sheet}
  {s t : Session Workbook} (h : Paired p workbook workbook' live live' s t)
include h

theorem isFillable (title : String) : t.isFillable title = s.isFillable title := by
  rw [Session.isFillable, Session.isFillable, h.fillColumns]

/-- What keeps the setting on both sides and counts the same keeps the sessions side by side. -/
theorem advance {s' t' : Session Workbook} {next next' : Sheet} (hs : SameSetting s s')
    (ht : SameSetting t t') (hleft : On workbook next s') (hright : On workbook' next' t')
    (hstats : t'.stats = s'.stats) : Paired p workbook workbook' next next' s' t' where
  left := hleft
  right := hright
  fillColumns := by rw [ht.fillColumns, h.fillColumns, hs.fillColumns]
  lastRow := by rw [ht.lastRow, h.lastRow, hs.lastRow]
  columnOf title htitle := by
    rw [ht.columnOf, hs.columnOf]
    exact h.columnOf title htitle
  stats := hstats

theorem report (event event' : Event) :
    Paired p workbook workbook' live live' (s.report event) (t.report event') :=
  h.advance ⟨rfl, rfl, rfl, rfl⟩ ⟨rfl, rfl, rfl, rfl⟩ (h.left.note _ _) (h.right.note _ _) h.stats

theorem noteUnrecognized (line line' : String) :
    Paired p workbook workbook' live live' (s.noteUnrecognized line)
      (t.noteUnrecognized line') := by
  refine h.advance ⟨rfl, rfl, rfl, rfl⟩ ⟨rfl, rfl, rfl, rfl⟩ (h.left.note _ _) (h.right.note _ _) ?_
  rw [Session.noteUnrecognized, Session.noteUnrecognized, h.stats]
  rfl

/-- After searches that hit the same row the cursors are the same but for the column. -/
theorem found {hit hit' : Option Coord} (hhit : hit' = hit.map (·.movedBy p)) (value : String) :
    (t.found hit' value).1 = (s.found hit value).1.movedBy p ∧
      Paired p workbook workbook' live live' (s.found hit value).2 (t.found hit' value).2 := by
  subst hhit
  constructor
  · rw [cursor_found, cursor_found, Cursor.ofHit_movedBy]
  · refine h.advance (.found s _ _) (.found t _ _) (h.left.found _ _) (h.right.found _ _) ?_
    cases hit with
    | none =>
      show { t.stats with findsMissed := t.stats.findsMissed + 1 } =
        { s.stats with findsMissed := s.stats.findsMissed + 1 }
      rw [h.stats]
    | some pos =>
      show { t.stats with findsHit := t.stats.findsHit + 1 } =
        { s.stats with findsHit := s.stats.findsHit + 1 }
      rw [h.stats]

/-- Searches in columns with the same texts hit the same row. -/
theorem findInColumn {title : String} (htitle : title ≠ "")
    (htext : ∀ col, Coord.word? (s.columnOf title) = some col →
      ∀ row, live'.text ⟨row, p col⟩ = live.text ⟨row, col⟩) (value : String) :
    (t.findInColumn (t.columnOf title) value).1 =
        (s.findInColumn (s.columnOf title) value).1.movedBy p ∧
      Paired p workbook workbook' live live' (s.findInColumn (s.columnOf title) value).2
        (t.findInColumn (t.columnOf title) value).2 := by
  refine h.found ?_ value
  rw [h.columnOf title htitle, h.lastRow]
  cases hcol : Coord.word? (s.columnOf title) with
  | none => rfl
  | some col =>
    have hsame (row : UInt32) : Document.text t.doc t.sheet ⟨row, p col⟩ =
        Document.text s.doc s.sheet ⟨row, col⟩ := by
      rw [h.left.text, h.right.text, htext col hcol]
    simp only [Option.map_some, Option.bind_some]
    rw [Document.findInColumn_map hsame]
    -- a hit is in the column that was searched
    simp only [Document.findInColumn, Option.map_bind, Function.comp_def, Option.map_map]
    rfl

/-- Writes at cursors with their columns moved keep the sessions side by side. -/
theorem write {c c' : Cursor} (hpos : c'.coord? = c.coord?.map (·.movedBy p)) (value : String) :
    Paired p workbook workbook' (live.filledAt c value) (live'.filledAt c' value)
      (s.write c value) (t.write c' value) := by
  refine h.advance (.write s c value) (.write t c' value) (h.left.write c value)
    (h.right.write c' value) ?_
  rw [h.left.stats_write, h.right.stats_write, h.stats, hpos]
  cases c.coord? with
  | none => rfl
  | some pos => rfl

/-- Lines added there keep the sessions side by side. -/
theorem append {c c' : Cursor} (hpos : c'.coord? = c.coord?.map (·.movedBy p)) (line : String) :
    Paired p workbook workbook' (live.extendedAt c line) (live'.extendedAt c' line)
      (s.append c line) (t.append c' line) := by
  refine h.advance (.append s c line) (.append t c' line) (h.left.append c line)
    (h.right.append c' line) ?_
  rw [h.left.stats_append, h.right.stats_append, h.stats, hpos]
  cases c.coord? with
  | none => rfl
  | some pos => rfl

/-- Beside cursors in the same row are cells in the column of a title, or there are none. -/
theorem coord?_withCol {c c' : Cursor} (hrow : c'.row = c.row) {title : String}
    (htitle : title ≠ "") :
    (c'.withCol (t.columnOf title)).coord? =
      (c.withCol (s.columnOf title)).coord?.map (·.movedBy p) :=
  Cursor.coord?_of_moved hrow (h.columnOf title htitle)

end Paired

end Session

end FillScript
