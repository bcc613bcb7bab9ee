import FillScript.Proofs.Document.Workbook
import FillScript.Proofs.Fill.Replay
import FillScript.Proofs.Fill.Search

/-!
# Searches in a sheet

A search of a sheet goes through its rows, each up to its last column with a text, and finds the
first cell that matches (`Coord.IsFirst`, `Document.isFirst_findInSheet`). How many rows it goes
through was settled when the session began; how far it goes in a row, and what it reads there, is as
the commands before it left the sheet (`rawFind_isFirst`). In a workbook no text stands beyond the
last column, so only the rows limit what a search for some text finds.
-/

namespace FillScript

/-! ## The first position with a property -/

namespace Coord

/-- The first position with a property, row by row, if there is one. -/
def IsFirst (P : Coord → Prop) : Option Coord → Prop
  | some pos => P pos ∧ ∀ other, P other →
      pos.row < other.row ∨ pos.row = other.row ∧ pos.col ≤ other.col
  | none => ∀ pos, ¬P pos

theorem IsFirst.congr {P Q : Coord → Prop} {first : Option Coord} (hfirst : IsFirst P first)
    (hiff : ∀ pos, P pos ↔ Q pos) : IsFirst Q first := by
  have : P = Q := funext fun pos => propext (hiff pos)
  rwa [← this]

end Coord

open Coord (IsFirst)

/-! ## Through the rows of a sheet -/

namespace Document

variable {δ : Type} [Document δ]

/-- Whether a cell has a text that is found, and is among the columns of its row that are searched.
-/
def IsMatch (doc : δ) (sheet : String) (matcher : Matcher) (pos : Coord) : Prop :=
  (∃ last, lastUsedCol doc sheet pos.row = some last ∧ pos.col ≤ last) ∧
    matcher.matches? (text doc sheet pos) = true

variable (doc : δ) (sheet : String) (matcher : Matcher)

theorem isFirst_findInRow (row : UInt32) :
    IsFirst (fun pos => pos.row = row ∧ IsMatch doc sheet matcher pos)
      (findInRow doc sheet matcher row) := by
  unfold findInRow
  cases hlast : lastUsedCol doc sheet row with
  | none =>
    rintro pos ⟨rfl, ⟨last, hused, -⟩, -⟩
    rw [hlast] at hused
    contradiction
  | some last =>
    rw [Option.bind_some]
    cases hfirst : firstFrom (fun col => matcher.matches? (text doc sheet ⟨row, UInt32.ofNat col⟩)) 0
        (last.toNat + 1) with
    | none =>
      rintro pos ⟨rfl, ⟨last', hused, hcol⟩, hmatch⟩
      obtain rfl : last = last' := by simpa [hlast] using hused
      have hle := UInt32.le_iff_toNat_le.1 hcol
      have hmiss := firstFrom_eq_none_iff.1 hfirst pos.col.toNat (Nat.zero_le _) (by omega)
      rw [UInt32.ofNat_toNat] at hmiss
      exact absurd (hmiss.symm.trans hmatch) Bool.false_ne_true
    | some n =>
      obtain ⟨-, hlt, hmatch, hbefore⟩ := firstFrom_eq_some_iff.1 hfirst
      have hle : n ≤ last.toNat := by omega
      have hval : (UInt32.ofNat n).toNat = n := toNat_ofNat_of_le hle
      refine ⟨⟨rfl, ⟨last, hlast, ?_⟩, hmatch⟩, ?_⟩
      · rw [UInt32.le_iff_toNat_le, hval]
        omega
      · rintro pos ⟨rfl, -, hmatch'⟩
        refine .inr ⟨rfl, ?_⟩
        rw [UInt32.le_iff_toNat_le, hval]
        by_contra hearlier
        have hmiss := hbefore pos.col.toNat (Nat.zero_le _) (by omega)
        rw [UInt32.ofNat_toNat] at hmiss
        exact absurd (hmiss.symm.trans hmatch') Bool.false_ne_true

theorem isFirst_findInRows (start count : Nat) (hcount : start + count ≤ UInt32.size) :
    IsFirst (fun pos => (start ≤ pos.row.toNat ∧ pos.row.toNat < start + count) ∧
        IsMatch doc sheet matcher pos)
      (findInRows doc sheet matcher start count) := by
  induction count generalizing start with
  | zero =>
    rintro pos ⟨⟨hstart, hlt⟩, -⟩
    omega
  | succ count ih =>
    have hval : (UInt32.ofNat start).toNat = start := UInt32.toNat_ofNat_of_lt' (by omega)
    have hrow := isFirst_findInRow doc sheet matcher (UInt32.ofNat start)
    rw [findInRows]
    cases hfind : findInRow doc sheet matcher (UInt32.ofNat start) with
    | some pos =>
      rw [hfind] at hrow
      obtain ⟨⟨hpos, hmatch⟩, hfirst⟩ := hrow
      refine ⟨⟨?_, hmatch⟩, ?_⟩
      · rw [hpos, hval]
        omega
      · rintro other ⟨⟨hstart, -⟩, hmatch'⟩
        by_cases hsame : other.row = UInt32.ofNat start
        · exact hfirst other ⟨hsame, hmatch'⟩
        · left
          have hne : other.row.toNat ≠ start := fun heq =>
            hsame (UInt32.toNat_inj.1 (heq.trans hval.symm))
          rw [hpos, UInt32.lt_iff_toNat_lt, hval]
          omega
    | none =>
      rw [hfind] at hrow
      refine (ih (start + 1) (by omega)).congr fun pos => and_congr_left fun hmatch => ?_
      have hne : pos.row.toNat ≠ start := fun heq =>
        hrow pos ⟨UInt32.toNat_inj.1 (heq.trans hval.symm), hmatch⟩
      omega

/-- A search of a sheet finds its first cell that matches, up to the last row. -/
theorem isFirst_findInSheet (lastRow : Option UInt32) :
    IsFirst (fun pos => (∃ last, lastRow = some last ∧ pos.row ≤ last) ∧
        IsMatch doc sheet matcher pos)
      (findInSheet doc sheet lastRow matcher) := by
  cases lastRow with
  | none =>
    rintro pos ⟨⟨last, hlast, -⟩, -⟩
    contradiction
  | some last =>
    have hlast := last.toNat_lt
    refine (isFirst_findInRows doc sheet matcher 0 (last.toNat + 1)
      (by simp only [UInt32.size]; omega)).congr fun pos => and_congr_left fun _ => ?_
    simp only [Option.some.injEq, exists_eq_left', UInt32.le_iff_toNat_le]
    omega

end Document

/-! ## Texts that are found -/

/-- Whether a find of a cell asks for a text. -/
def FindMode.Accepts (mode : FindMode) (value text : String) : Prop :=
  match mode with
  | .equals => text = value
  | .startsWith => value.toList <+: text.toList

theorem Matcher.matches?_ofMode {mode : FindMode} {value text : String} :
    (ofMode mode value).matches? text = true ↔ mode.Accepts value text := by
  cases mode with
  | equals => exact beq_iff_eq
  | startsWith => exact List.isPrefixOf_iff_prefix

theorem FindMode.Accepts.ne_empty {mode : FindMode} {value text : String}
    (haccepts : mode.Accepts value text) (hvalue : value ≠ "") : text ≠ "" := by
  rintro rfl
  cases mode with
  | equals => exact hvalue haccepts.symm
  | startsWith =>
    have hnil : value.toList = [] := List.prefix_nil.1 haccepts
    exact hvalue (String.toList_eq_nil_iff.1 hnil)

/-- Where a workbook has a text, its row is used up to there. -/
theorem Workbook.le_lastUsedCol {workbook : Workbook} {name : String} {pos : Coord}
    (htext : Document.text workbook name pos ≠ "") :
    ∃ last, Document.lastUsedCol workbook name pos.row = some last ∧ pos.col ≤ last := by
  simp only [Document.text, Document.lastUsedCol] at htext ⊢
  cases hsheet : workbook.sheet? name with
  | none => simp [hsheet] at htext
  | some sheet =>
    simp only [hsheet, Option.map_some, Option.getD_some] at htext
    have huses := Sheet.uses_of_text_ne_empty htext
    have hlast := sheet.isLast_lastUsedCol pos.row
    rw [Option.bind_some]
    cases hcol : sheet.lastUsedCol pos.row with
    | none =>
      rw [hcol] at hlast
      exact absurd huses (hlast pos.col)
    | some last =>
      rw [hcol] at hlast
      exact ⟨last, rfl, hlast.2 pos.col huses⟩

/-! ## Finds in a session -/

theorem Session.stats_found {δ : Type} (s : Session δ) (hit : Option Coord) (value : String) :
    (s.found hit value).2.stats =
      match hit with
      | some _ => { s.stats with findsHit := s.stats.findsHit + 1 }
      | none => { s.stats with findsMissed := s.stats.findsMissed + 1 } := by
  cases hit with
  | some pos => rfl
  | none => rfl

/-- After whatever commands, a find leads to the first cell that has a text as it asks for now: in
the rows up to the one that was the last when the session began, and in each of them up to the
column that is the last now. A find of some text leaves out no column. -/
theorem rawFind_isFirst (workbook : Workbook) (name : String) (fillColumns : List String)
    (state : ScriptState) (commands : List Command) (mode : FindMode) (value : String) :
    let before := dispatchAll state (.start workbook name fillColumns) commands
    let after := dispatch before.1 before.2 (.rawFind mode value)
    ∃ hit : Option Coord,
      IsFirst (fun pos =>
          (∃ last, Document.lastUsedRow workbook name = some last ∧ pos.row ≤ last) ∧
          (∃ last, Document.lastUsedCol before.2.doc name pos.row = some last ∧ pos.col ≤ last) ∧
          mode.Accepts value (Document.text before.2.doc name pos)) hit ∧
        (value ≠ "" → IsFirst (fun pos =>
          (∃ last, Document.lastUsedRow workbook name = some last ∧ pos.row ≤ last) ∧
          mode.Accepts value (Document.text before.2.doc name pos)) hit) ∧
        after.1.cursor = .ofHit hit ∧
        after.2.stats =
          match hit with
          | some _ => { before.2.stats with findsHit := before.2.stats.findsHit + 1 }
          | none => { before.2.stats with findsMissed := before.2.stats.findsMissed + 1 } := by
  intro before after
  obtain ⟨hsheet, -, -, hlastRow⟩ :=
    Session.SameSetting.dispatchAll (.start workbook name fillColumns) state commands
  have hfirst := Document.isFirst_findInSheet before.2.doc name (.ofMode mode value)
    (Document.lastUsedRow workbook name)
  have hfind : before.2.find mode value =
      before.2.found (Document.findInSheet before.2.doc name (Document.lastUsedRow workbook name)
        (.ofMode mode value)) value := by
    rw [Session.find, hsheet, hlastRow]
    rfl
  generalize Document.findInSheet before.2.doc name (Document.lastUsedRow workbook name)
    (.ofMode mode value) = hit at hfirst hfind
  refine ⟨hit, ?_, fun hvalue => ?_, ?_, ?_⟩
  · exact hfirst.congr fun pos => and_congr_right fun _ => and_congr_right fun _ =>
      Matcher.matches?_ofMode
  · refine hfirst.congr fun pos => and_congr_right fun _ => ?_
    rw [Document.IsMatch, Matcher.matches?_ofMode]
    exact and_iff_right_of_imp fun haccepts =>
      Workbook.le_lastUsedCol (haccepts.ne_empty hvalue)
  · exact (congrArg Prod.fst hfind).trans (Session.cursor_found _ _ _)
  · exact (congrArg (fun found => found.2.stats) hfind).trans (Session.stats_found _ _ _)

/-- A crew of one. -/
def crew : Workbook :=
  ⟨"Crews", [(Sheet.blank "Crew").setText ⟨0, 0⟩ "Ada"]⟩

/-- Commands that note one more beside the first, and another in a row of its own. -/
def crewCommands : List Command :=
  [.rawFind .equals "Ada", .move .right "Bo", .move .down "Cy"]

/-- Who was noted in a new row is in the sheet, but is not found. -/
theorem rawFind_isFirst_crew :
    let before := dispatchAll .start (.start crew "Crew" []) crewCommands
    (dispatch before.1 before.2 (.rawFind .startsWith "B")).1.cursor = .ofCoord ⟨0, 1⟩ ∧
      Document.text before.2.doc "Crew" ⟨1, 1⟩ = "Cy" ∧
      (dispatch before.1 before.2 (.rawFind .equals "Cy")).1.cursor = .lost ∧
      ∀ pos : Coord, pos.row ≤ 0 → Document.text before.2.doc "Crew" pos ≠ "Cy" := by
  intro before
  have hlost : (dispatch before.1 before.2 (.rawFind .equals "Cy")).1.cursor = .lost := by
    decide +kernel
  refine ⟨by decide +kernel, by decide +kernel, hlost, fun pos hrow htext => ?_⟩
  have hlast : Document.lastUsedRow crew "Crew" = some 0 := by decide +kernel
  obtain ⟨hit, -, hfirst, hcursor, -⟩ :=
    rawFind_isFirst crew "Crew" [] .start crewCommands .equals "Cy"
  have hmiss : hit = none := by
    cases hit with
    | none => rfl
    | some found =>
      have hrows : (found.row.toNat : Int) = -1 := congrArg Cursor.row (hcursor.symm.trans hlost)
      omega
  subst hmiss
  exact hfirst (by decide) pos ⟨⟨0, hlast, hrow⟩, htext⟩

end FillScript
