import FillScript.Proofs.Document.SameDocument
import FillScript.Proofs.Fill.Sections
import FillScript.Proofs.Fill.Target
import Mathlib.Logic.Relation

/-!
# What a run makes of the cells

All that a script does to a cell is to fill in values and to add lines (`Cell.Rewrite`), in either
mode and whatever the cursor went through. So after a run every sheet is in its place, and every
stored cell comes from the one that was there before by such steps (`Template.rewritten_run`). A
property of cells that no step brings about was there from the start. The dash in front of a text
is one: a value that starts with a dash is stored with an apostrophe, and what is added to a text
that shows follows it (`run_startsWithDash`).
-/

namespace FillScript

/-! ## Rewritten cells -/

/-- What a script does to a stored cell at one time: it fills in a value, or adds a line. -/
inductive Cell.Rewrite (stored : Option Cell) : Option Cell → Prop where
  | filled (value : String) : Rewrite stored (some ((stored.getD .blank).filled value))
  | extended (line : String) : Rewrite stored (some ((stored.getD .blank).extended line))

/-- A stored cell and what a script made of it, one thing after the other. -/
def Cell.Rewritten : Option Cell → Option Cell → Prop :=
  Relation.ReflTransGen Rewrite

/-! ## Rewritten sheets -/

/-- A sheet and what a script made of it, cell by cell. -/
structure Sheet.Rewritten (before after : Sheet) : Prop where
  name : after.name = before.name
  cell? (pos : Coord) : Cell.Rewritten (before.cell? pos) (after.cell? pos)

namespace Sheet.Rewritten

theorem refl (sheet : Sheet) : Rewritten sheet sheet :=
  ⟨rfl, fun _ => .refl⟩

theorem trans {before between after : Sheet} (first : Rewritten before between)
    (second : Rewritten between after) : Rewritten before after where
  name := second.name.trans first.name
  cell? pos := (first.cell? pos).trans (second.cell? pos)

theorem filled (sheet : Sheet) (pos : Coord) (value : String) :
    Rewritten sheet (sheet.filled pos value) where
  name := sheet.name_filled pos value
  cell? other := by
    rw [cell?_filled]
    by_cases heq : other = pos
    · rw [if_pos heq, heq]
      exact .single (.filled value)
    · rw [if_neg heq]
      exact .refl

theorem extended (sheet : Sheet) (pos : Coord) (line : String) :
    Rewritten sheet (sheet.extended pos line) where
  name := rfl
  cell? other := by
    rw [cell?_extended]
    by_cases heq : other = pos
    · rw [if_pos heq, heq]
      exact .single (.extended line)
    · rw [if_neg heq]
      exact .refl

theorem filledAt (sheet : Sheet) (c : Cursor) (value : String) :
    Rewritten sheet (sheet.filledAt c value) := by
  unfold Sheet.filledAt
  cases c.coord? with
  | none => exact refl sheet
  | some pos => exact filled sheet pos value

theorem extendedAt (sheet : Sheet) (c : Cursor) (line : String) :
    Rewritten sheet (sheet.extendedAt c line) := by
  unfold Sheet.extendedAt
  cases c.coord? with
  | none => exact refl sheet
  | some pos => exact extended sheet pos line

end Sheet.Rewritten

/-! ## Commands rewrite -/

namespace Session.On

variable {workbook : Workbook} {live : Sheet} {s : Session Workbook}

theorem rewritten_enter (h : On workbook live s) (c : Cursor) (entry : Entry) :
    ∃ live', On workbook live' (s.enter c entry) ∧ live.Rewritten live' := by
  cases entry with
  | fill value => exact ⟨_, h.write c value, .filledAt live c value⟩
  | extend line => exact ⟨_, h.append c line, .extendedAt live c line⟩

/-- A command rewrites the sheet of its session, or leaves it. -/
theorem rewritten_dispatch (h : On workbook live s) (state : ScriptState) (command : Command) :
    ∃ live', On workbook live' (dispatch state s command).2 ∧ live.Rewritten live' := by
  rcases (step_dispatch state s command).writes_or_notes with
    ⟨c, entry, -, hwrites⟩ | ⟨stats, log, hnotes⟩
  · rw [hwrites]
    exact h.rewritten_enter c entry
  · rw [hnotes]
    exact ⟨live, h.note stats log, .refl live⟩

/-- Commands rewrite the sheet of their session. -/
theorem rewritten_dispatchAll (h : On workbook live s) (state : ScriptState)
    (commands : List Command) :
    ∃ live', On workbook live' (dispatchAll state s commands).2 ∧ live.Rewritten live' := by
  refine dispatchAll_induction (Q := fun _ => True)
    (P := fun _ _ t => ∃ live', On workbook live' t ∧ live.Rewritten live')
    ⟨live, h, .refl live⟩ ?_ fun _ _ => trivial
  intro done state t command hdone _
  obtain ⟨between, hbetween, hfirst⟩ := hdone
  obtain ⟨after, hafter, hsecond⟩ := hbetween.rewritten_dispatch state command
  exact ⟨after, hafter, hfirst.trans hsecond⟩

end Session.On

/-- Lines for a sheet rewrite it. -/
theorem Template.rewritten_fillSheet (template : Template) (lines : List String) (sheet : Sheet) :
    sheet.Rewritten (template.fillSheet lines sheet) := by
  have hsheet : (Workbook.mk "" [sheet]).sheet? sheet.name = some sheet := by
    simp [Workbook.sheet?]
  obtain ⟨live, hlive, hrewritten⟩ :=
    (Session.On.start hsheet template.fillColumns).rewritten_dispatchAll .start
      (lines.map (Command.ofLine template.useTitle))
  rwa [template.live_eq_fillSheet hsheet hlive] at hrewritten

/-! ## Rewritten workbooks -/

/-- A workbook and what a script made of it, sheet by sheet. -/
structure Workbook.Rewritten (before after : Workbook) : Prop where
  name : after.name = before.name
  sheets : List.Forall₂ Sheet.Rewritten before.sheets after.sheets

theorem forall₂_modifyFirst_right {α β : Type} {R : α → β → Prop} {p : β → Bool} {f : β → β}
    (hf : ∀ {a b}, R a b → R a (f b)) {as : List α} {bs : List β} (h : List.Forall₂ R as bs) :
    List.Forall₂ R as (modifyFirst p f bs) := by
  induction h with
  | nil => exact .nil
  | @cons a b as bs hhead htail ih =>
    by_cases hb : p b = true
    · rw [modifyFirst_cons_of_pos hb]
      exact .cons (hf hhead) htail
    · rw [modifyFirst_cons_of_neg hb]
      exact .cons hhead ih

theorem exists_left_of_getElem? {α β : Type} {R : α → β → Prop} {as : List α} {bs : List β}
    (h : List.Forall₂ R as bs) {i : Nat} {b : β} (hb : bs[i]? = some b) :
    ∃ a, as[i]? = some a ∧ R a b := by
  induction h generalizing i with
  | nil => simp at hb
  | @cons a _ as _ hhead _ ih =>
    cases i with
    | zero =>
      obtain rfl := Option.some.inj hb
      exact ⟨a, rfl, hhead⟩
    | succ i => exact ih hb

namespace Workbook.Rewritten

theorem refl (workbook : Workbook) : Rewritten workbook workbook :=
  ⟨rfl, List.forall₂_same.2 fun sheet _ => .refl sheet⟩

theorem modifySheet {before after : Workbook} (h : Rewritten before after) (name : String)
    {f : Sheet → Sheet} (hf : ∀ sheet : Sheet, sheet.Rewritten (f sheet)) :
    Rewritten before (after.modifySheet name f) where
  name := h.name
  sheets := forall₂_modifyFirst_right (fun hsheet => hsheet.trans (hf _)) h.sheets

end Workbook.Rewritten

/-- A run rewrites cells and does nothing else to a workbook. -/
theorem Template.rewritten_run (template : Template) (workbook : Workbook) :
    workbook.Rewritten (template.run workbook).doc := by
  rw [template.doc_run]
  induction template.sections.list using List.reverseRecOn with
  | nil => exact .refl workbook
  | append_singleton parts part ih =>
    rw [fillSheets_concat]
    exact ih.modifySheet part.name fun sheet => template.rewritten_fillSheet part.lines sheet

/-! ## Texts that start with a dash -/

/-- Whether the first character of a text is a dash. -/
def StartsWithDash (text : String) : Prop :=
  text.toList.head? = some '-'

instance (text : String) : Decidable (StartsWithDash text) :=
  inferInstanceAs (Decidable (text.toList.head? = some '-'))

theorem not_startsWithDash_escaped (value : String) : ¬StartsWithDash (escaped value) := by
  unfold escaped StartsWithDash
  split
  · simp
  · next hdash => simpa using hdash

/-- A line that is added brings no dash in front of a text. -/
theorem startsWithDash_of_appendedText {existing line : String}
    (hdash : StartsWithDash (Session.appendedText existing line)) : StartsWithDash existing := by
  unfold Session.appendedText at hdash
  split at hdash
  · exact absurd hdash (not_startsWithDash_escaped line)
  · next hblank =>
    have hne : existing.toList ≠ [] := by
      simpa using ne_empty_of_isBlankText hblank
    obtain ⟨c, rest, hchars⟩ := List.exists_cons_of_ne_nil hne
    simpa [StartsWithDash, hchars] using hdash

/-- What a stored cell shows. -/
def Cell.shownOf (stored : Option Cell) : String :=
  (stored.getD .blank).value.shown

/-- Nothing that a script does brings a dash in front of what a cell shows. -/
theorem Cell.Rewrite.startsWithDash {stored after : Option Cell} (h : Rewrite stored after)
    (hdash : StartsWithDash (shownOf after)) : StartsWithDash (shownOf stored) := by
  cases h with
  | filled value =>
    rw [shownOf, Option.getD_some, Cell.filled] at hdash
    dsimp only at hdash
    split at hdash
    · exact hdash
    · exact absurd hdash (not_startsWithDash_escaped value)
  | extended line =>
    rw [shownOf, Option.getD_some, Cell.extended, CellValue.shown_ofText] at hdash
    exact startsWithDash_of_appendedText hdash

theorem Cell.Rewritten.startsWithDash {stored after : Option Cell} (h : Rewritten stored after)
    (hdash : StartsWithDash (shownOf after)) : StartsWithDash (shownOf stored) := by
  induction h with
  | refl => exact hdash
  | tail _ hstep ih => exact ih (hstep.startsWithDash hdash)

/-- Where a text starts with a dash after a run, the text at this position of this sheet did so
before. -/
theorem run_startsWithDash (template : Template) (workbook : Workbook) {i : Nat} {after : Sheet}
    (hafter : (template.run workbook).doc.sheets[i]? = some after) {pos : Coord}
    (hdash : StartsWithDash (after.text pos)) :
    ∃ before, workbook.sheets[i]? = some before ∧ before.name = after.name ∧
      StartsWithDash (before.text pos) := by
  obtain ⟨before, hbefore, hrewritten⟩ :=
    exists_left_of_getElem? (template.rewritten_run workbook).sheets hafter
  exact ⟨before, hbefore, hrewritten.name.symm, (hrewritten.cell? pos).startsWithDash hdash⟩

/-- Locks, of which one has a level below zero. -/
def locks : Sheet :=
  ((Sheet.withHeader "Locks" ["Gate", "Level", "Change"]).setCell ⟨1, 0⟩
    ⟨.text "upper", .plain⟩).setCell ⟨1, 1⟩
    ⟨.number ⟨true, (Magnitude.ofRatio? 2 1).getD .zero⟩, .plain⟩

/-- A workbook with this sheet. -/
def tides : Workbook :=
  ⟨"Tides", [locks]⟩

/-- Lines that go on after the level, and put a change of it beside. -/
def lockLines : List String :=
  ["Gate: upper", "Level:", "and falling", "Change: -3"]

/-- A script with these lines. -/
def tideScript : Template :=
  ⟨.empty, .empty, true, [], ["Level", "Change"], ⟨[⟨"Locks", lockLines⟩], by decide⟩⟩

/-- The locks after that. -/
def locksAfter : Sheet :=
  tideScript.fillSheet lockLines locks

theorem run_startsWithDash_tides :
    (tideScript.run tides).doc.sheets[0]? = some locksAfter ∧
      StartsWithDash (locksAfter.text ⟨1, 1⟩) ∧ StartsWithDash (locks.text ⟨1, 1⟩) ∧
      locksAfter.cell? ⟨1, 1⟩ ≠ locks.cell? ⟨1, 1⟩ ∧ locksAfter.text ⟨1, 2⟩ = "'-3" := by
  have hafter : (tideScript.run tides).doc.sheets[0]? = some locksAfter := by decide +kernel
  have hdash : StartsWithDash (locksAfter.text ⟨1, 1⟩) := by decide +kernel
  obtain ⟨before, hbefore, -, hdash'⟩ := run_startsWithDash tideScript tides hafter hdash
  obtain rfl := Option.some.inj hbefore
  exact ⟨hafter, hdash, hdash', by decide +kernel, by decide +kernel⟩

end FillScript
