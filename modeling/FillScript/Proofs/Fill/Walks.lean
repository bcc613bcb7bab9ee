import FillScript.Proofs.Fill.LostCursor
import Mathlib.Algebra.Ring.Int.Defs
import Mathlib.Data.List.Induction
import Mathlib.Data.List.Infix

/-!
# Walks

A walk is a row of moves from a cell. The moves add up to a displacement (`Cursor.displaced`), and
the cursor stands where this leads until the walk leaves the sheet above or to the left; then it is
lost for good (`Cursor.walk_or_isLost`). A walk that leaves the sheet below or to the right is not
lost. There is no cell where it stands, but its cursor counts as valid and comes back by the
opposite moves (`Cursor.walk_backFromBelow`). So the cells of a walk are where its moves lead as
long as it has not left the sheet above or to the left (`Cursor.walk_ofCoord`).
-/

namespace FillScript.Cursor

/-! ## Cells and valid cursors -/

/-- Whether a cursor is at a cell: each index is a number of 32 bits. -/
def IsAtCell (c : Cursor) : Prop :=
  (0 ≤ c.row ∧ c.row < UInt32.size) ∧ 0 ≤ c.col ∧ c.col < UInt32.size

instance (c : Cursor) : Decidable c.IsAtCell :=
  inferInstanceAs (Decidable (_ ∧ _))

theorem coord?_eq_some_iff_ofCoord {c : Cursor} {pos : Coord} :
    c.coord? = some pos ↔ c = ofCoord pos := by
  have hword {n : Int} {word : UInt32} : Coord.word? n = some word ↔ n = word.toNat :=
    ⟨Coord.eq_toNat_of_word?, fun hn => hn ▸ Coord.word?_toNat word⟩
  rw [coord?_eq_some_iff, hword, hword]
  cases c
  rw [ofCoord, mk.injEq]

theorem isAtCell_iff {c : Cursor} : c.IsAtCell ↔ ∃ pos, c.coord? = some pos := by
  simp only [coord?_eq_some_iff_ofCoord]
  constructor
  · rintro ⟨⟨hrow, hrow'⟩, hcol, hcol'⟩
    refine ⟨⟨UInt32.ofNat c.row.toNat, UInt32.ofNat c.col.toNat⟩, ?_⟩
    rw [ofCoord, UInt32.toNat_ofNat_of_lt' (by omega), UInt32.toNat_ofNat_of_lt' (by omega),
      Int.toNat_of_nonneg hrow, Int.toNat_of_nonneg hcol]
  · rintro ⟨pos, rfl⟩
    have hrow := pos.row.toNat_lt
    have hcol := pos.col.toNat_lt
    simp only [IsAtCell, ofCoord, UInt32.size]
    omega

theorem IsAtCell.not_isLost {c : Cursor} (h : c.IsAtCell) : ¬c.IsLost := by
  obtain ⟨⟨hrow, -⟩, hcol, -⟩ := h
  rw [IsLost, not_or, Int.not_lt, Int.not_lt]
  exact ⟨hrow, hcol⟩

theorem isValid_eq_false_iff {c : Cursor} : c.isValid = false ↔ c.IsLost := by
  rw [isValid, Bool.and_eq_false_iff, decide_eq_false_iff_not, decide_eq_false_iff_not,
    Int.not_le, Int.not_le, IsLost]

/-! ## Moves, one after the other -/

/-- The cursor after moves. -/
def walk (c : Cursor) (moves : List Direction) : Cursor :=
  moves.foldl step c

/-- The place to which the steps of moves add up. -/
def displaced (c : Cursor) (moves : List Direction) : Cursor where
  row := c.row + (moves.map fun move => move.delta.1).sum
  col := c.col + (moves.map fun move => move.delta.2).sum

variable (c : Cursor) (moves : List Direction) (move : Direction)

theorem walk_concat : c.walk (moves ++ [move]) = (c.walk moves).step move := by
  rw [walk, List.foldl_append]
  rfl

theorem displaced_nil : c.displaced [] = c := by
  simp [displaced]

/-- A cursor that is not lost goes one step further. -/
theorem step_displaced (hvalid : ¬(c.displaced moves).IsLost) :
    (c.displaced moves).step move = c.displaced (moves ++ [move]) := by
  rw [← isValid_eq_false_iff, Bool.not_eq_false] at hvalid
  rw [step, if_pos hvalid]
  simp [displaced, Int.add_assoc]

/-- The cursor of a walk stands where the moves lead, unless some of them, from the first one on,
led above or to the left of the sheet; then it is lost. -/
theorem walk_or_isLost :
    ((∀ done, done <+: moves → ¬(c.displaced done).IsLost) ∧ c.walk moves = c.displaced moves) ∨
      (∃ done, done <+: moves ∧ (c.displaced done).IsLost) ∧ (c.walk moves).IsLost := by
  induction moves using List.reverseRecOn with
  | nil =>
    by_cases hlost : c.IsLost
    · exact .inr ⟨⟨[], List.prefix_rfl, by rwa [displaced_nil]⟩, hlost⟩
    · refine .inl ⟨fun done hdone => ?_, by rw [displaced_nil]; rfl⟩
      rw [List.prefix_nil.1 hdone, displaced_nil]
      exact hlost
  | append_singleton moves move ih =>
    rw [walk_concat]
    rcases ih with ⟨hdone, hwalk⟩ | ⟨⟨done, hdone, hlost⟩, hwalk⟩
    · rw [hwalk, step_displaced _ _ _ (hdone moves List.prefix_rfl)]
      by_cases hlost : (c.displaced (moves ++ [move])).IsLost
      · exact .inr ⟨⟨_, List.prefix_rfl, hlost⟩, hlost⟩
      · refine .inl ⟨fun done h => ?_, rfl⟩
        rcases List.prefix_concat_iff.1 h with rfl | h
        · exact hlost
        · exact hdone done h
    · refine .inr ⟨⟨done, hdone.trans (List.prefix_append _ _), hlost⟩, ?_⟩
      rw [hwalk.step]
      exact isLost_lost

/-- Walks from a cell. As long as its moves lead to cells, the cursor is at the one to which they
lead. Once they have led above or to the left of the sheet, there is no valid cursor and no cell,
whatever moves follow. Otherwise the cursor is where the moves lead and is valid, also below or to
the right of the sheet, where there is no cell. -/
theorem walk_ofCoord (c : Coord) (moves : List Direction) :
    let start := ofCoord c
    ((∀ done, done <+: moves → (start.displaced done).IsAtCell) →
      ∃ pos, (start.walk moves).coord? = some pos ∧ ofCoord pos = start.displaced moves) ∧
    (∀ done, done <+: moves → (start.displaced done).IsLost →
      (start.walk moves).isValid = false ∧ (start.walk moves).coord? = none) ∧
    ((∀ done, done <+: moves → ¬(start.displaced done).IsLost) →
      start.walk moves = start.displaced moves ∧ (start.walk moves).isValid = true) := by
  intro start
  have hwalk := start.walk_or_isLost moves
  refine ⟨fun hcells => ?_, fun done hdone hlost => ?_, fun hdone => ?_⟩
  · rcases hwalk with ⟨-, hwalk⟩ | ⟨⟨done, hdone, hlost⟩, -⟩
    · obtain ⟨pos, hpos⟩ := isAtCell_iff.1 (hcells moves List.prefix_rfl)
      exact ⟨pos, by rw [hwalk, hpos], (coord?_eq_some_iff_ofCoord.1 hpos).symm⟩
    · exact absurd hlost (hcells done hdone).not_isLost
  · rcases hwalk with ⟨hall, -⟩ | ⟨-, hwalk⟩
    · exact absurd hlost (hall done hdone)
    · exact ⟨isValid_eq_false_iff.2 hwalk, hwalk.coord?⟩
  · rcases hwalk with ⟨-, hwalk⟩ | ⟨⟨done, hprefix, hlost⟩, -⟩
    · refine ⟨hwalk, ?_⟩
      rw [hwalk, ← Bool.not_eq_false, isValid_eq_false_iff]
      exact hdone moves List.prefix_rfl
    · exact absurd hlost (hdone done hprefix)

theorem walk_ofCoord_corner :
    let start := ofCoord ⟨0, 4294967295⟩
    ((∀ done, done <+: [Direction.down, .left] → (start.displaced done).IsAtCell) ∧
      ∃ pos, (start.walk [.down, .left]).coord? = some pos ∧
        ofCoord pos = start.displaced [.down, .left]) ∧
    ([Direction.up] <+: [.up, .down, .down] ∧ (start.displaced [.up]).IsLost ∧
      (start.walk [.up, .down, .down]).isValid = false ∧
      (start.walk [.up, .down, .down]).coord? = none) ∧
    (∀ done, done <+: [Direction.right, .left] → ¬(start.displaced done).IsLost) ∧
      start.walk [.right, .left] = start.displaced [.right, .left] ∧
      (start.walk [.right, .left]).isValid = true := by
  intro start
  have hcells : ∀ done, done <+: [Direction.down, .left] → (start.displaced done).IsAtCell := by
    simp only [← List.mem_inits]
    decide
  have hright : ∀ done, done <+: [Direction.right, .left] → ¬(start.displaced done).IsLost := by
    simp only [← List.mem_inits]
    decide
  have hup : [Direction.up] <+: [.up, .down, .down] := by decide
  have hlost : (start.displaced [.up]).IsLost := by decide
  exact ⟨⟨hcells, (walk_ofCoord _ _).1 hcells⟩,
    ⟨hup, hlost, (walk_ofCoord _ _).2.1 _ hup hlost⟩, hright, (walk_ofCoord _ _).2.2 hright⟩

/-- A walk that has left the sheet below the last row stands at no cell with a valid cursor, and the
move back leads to the cell that it left. -/
theorem walk_backFromBelow :
    let last : Coord := ⟨4294967295, 0⟩
    ((ofCoord last).walk [.down]).coord? = none ∧ ((ofCoord last).walk [.down]).isValid = true ∧
      ((ofCoord last).walk [.down, .up]).coord? = some last := by
  decide

end FillScript.Cursor
