import FillScript.Proofs.Fill.Target

/-!
# A fill and the lines after it

The continuations after a fill or a move write to the cell that it wrote to, with remarks and lines
that are no command between them as there may be (`ScriptState.ExtendsAt`). Each adds its line to
what the cell shows by then (`ScriptState.ExtendsAt.dispatchAll`), so that in the end the cell shows
the lines joined behind the value, and no other cell has changed (`dispatchAll_joined`).
-/

namespace FillScript

/-! ## Texts that grow -/

/-- Lines that are added to a text are joined behind it. -/
theorem Session.foldl_appendedText {base : String} (hbase : Text.isBlankText base = false)
    (lines : List String) : lines.foldl appendedText base = "\n".intercalate (base :: lines) := by
  induction lines generalizing base with
  | nil => rw [List.foldl_nil, String.intercalate_singleton]
  | cons line lines ih =>
    have hnext : Text.isBlankText (base ++ "\n" ++ line) = false := by
      rw [Text.isBlankText_append, Text.isBlankText_append, hbase, Bool.false_and, Bool.false_and]
    rw [List.foldl_cons, appendedText_of_not_blank hbase, ih hnext, String.intercalate_cons_append,
      String.intercalate_cons_cons]

/-! ## Commands between a fill and its last line -/

namespace Command

/-- The commands that leave the cursor and the active command. -/
inductive StaysPut : Command → Prop where
  | continuation (line : String) : StaysPut (.continuation line)
  | comment : StaysPut .comment
  | unrecognized (line : String) : StaysPut (.unrecognized line)

instance (command : Command) : Decidable command.StaysPut :=
  match command with
  | .continuation line => .isTrue (.continuation line)
  | .comment => .isTrue .comment
  | .unrecognized line => .isTrue (.unrecognized line)
  | .titleAssign .. | .rawFind .. | .move .. | .badMove _ => .isFalse nofun

/-- The line that a continuation adds. -/
def addedLine? : Command → Option String
  | continuation line => some line
  | _ => none

/-- After a command that wrote somewhere a continuation writes there. -/
theorem WritesTo.continuation {δ : Type} [Document δ] {state : ScriptState} {s : Session δ}
    {command : Command} {c : Cursor} {entry : Entry} (h : command.WritesTo state s c entry)
    (line : String) :
    (Command.continuation line).WritesTo (dispatch state s command).1 (dispatch state s command).2 c
      (.extend line) := by
  have hcolumn (title : String) : (dispatch state s command).2.columnOf title = s.columnOf title :=
    (Session.SameSetting.dispatch s state command).columnOf title
  have hactive := active_dispatch state s command
  cases h with
  | @fill title value htitle =>
    have hcursor : (dispatch state s (.titleAssign title value)).1.cursor = state.cursor := by
      have hfill : s.isFillable title = true := List.contains_iff_mem.2 htitle
      simp only [dispatch, hfill, if_true]
    rw [ActiveCommand.after, if_pos htitle] at hactive
    rw [← hcolumn, ← hcursor]
    exact .extendFill line hactive
  | move direction value => exact .extendMove line rfl
  | extendFill text htitle =>
    rw [← hcolumn, state_dispatch_continuation]
    exact .extendFill line htitle
  | extendMove text hmove =>
    rw [state_dispatch_continuation]
    exact .extendMove line hmove

end Command

/-! ## Lines that are added to a cell -/

/-- Whether continuations add to a cell, in the sheet with an index. -/
def ScriptState.ExtendsAt (state : ScriptState) (s : Session Workbook) (i : Nat) (pos : Coord) :
    Prop :=
  ∀ line, (Command.continuation line).Target state s i pos (.extend line)

namespace Workbook

/-- What is shown at a position of the sheet with an index. -/
def shownAt (workbook : Workbook) (i : Nat) (pos : Coord) : String :=
  ((workbook.cellAt? i pos).getD .blank).value.shown

namespace ChangedAt

variable {i : Nat} {pos : Coord} {before between after : Workbook}

theorem refl (i : Nat) (pos : Coord) (workbook : Workbook) : ChangedAt i pos workbook workbook :=
  ⟨rfl, rfl, fun _ _ _ => rfl⟩

theorem trans (first : ChangedAt i pos before between) (second : ChangedAt i pos between after) :
    ChangedAt i pos before after where
  name := second.name.trans first.name
  sheetNames := second.sheetNames.trans first.sheetNames
  others j other hne := (second.others j other hne).trans (first.others j other hne)

theorem sheetIndex? (h : ChangedAt i pos before after) (name : String) :
    after.sheetIndex? name = before.sheetIndex? name := by
  rw [Workbook.sheetIndex?, Workbook.sheetIndex?, h.sheetNames]

end ChangedAt

end Workbook

section

variable {state : ScriptState} {s : Session Workbook} {i : Nat} {pos : Coord}

/-- Where a command wrote continuations add. -/
theorem Command.Target.extendsAt {command : Command} {entry : Entry}
    (h : command.Target state s i pos entry) :
    (dispatch state s command).1.ExtendsAt (dispatch state s command).2 i pos := by
  obtain ⟨hindex, c, hwrites, hpos⟩ := h
  exact fun line => ⟨sheetIndex?_dispatch.trans hindex, c, hwrites.continuation line, hpos⟩

namespace ScriptState.ExtendsAt

/-- A command that stays put adds its line to the cell, if it has one. -/
theorem dispatch (h : state.ExtendsAt s i pos) {command : Command} (hcommand : command.StaysPut) :
    (FillScript.dispatch state s command).1.ExtendsAt (FillScript.dispatch state s command).2 i
        pos ∧
      s.doc.ChangedAt i pos (FillScript.dispatch state s command).2.doc ∧
      (FillScript.dispatch state s command).2.doc.shownAt i pos =
        command.addedLine?.elim (s.doc.shownAt i pos)
          (Session.appendedText (s.doc.shownAt i pos)) := by
  cases hcommand with
  | continuation line =>
    obtain ⟨hchanged, hcell⟩ := (h line).changedAt
    refine ⟨(h line).extendsAt, hchanged, ?_⟩
    rw [Workbook.shownAt, hcell]
    exact ((Entry.extend line).turns_applied _).shown_extend
  | comment => exact ⟨h, .refl i pos s.doc, rfl⟩
  | unrecognized text =>
    refine ⟨fun line => ?_, .refl i pos s.doc, rfl⟩
    obtain ⟨hindex, c, hwrites, hpos⟩ := h line
    refine ⟨hindex, c, ?_, hpos⟩
    cases hwrites with
    | extendFill _ hactive => exact .extendFill line hactive
    | extendMove _ hactive => exact .extendMove line hactive

/-- Commands that stay put add their lines to the cell one after the other. -/
theorem dispatchAll (h : state.ExtendsAt s i pos) {commands : List Command}
    (hcommands : ∀ command ∈ commands, command.StaysPut) :
    s.doc.ChangedAt i pos (FillScript.dispatchAll state s commands).2.doc ∧
      (FillScript.dispatchAll state s commands).2.doc.shownAt i pos =
        (commands.filterMap (·.addedLine?)).foldl Session.appendedText (s.doc.shownAt i pos) := by
  induction commands generalizing state s with
  | nil => exact ⟨.refl i pos s.doc, rfl⟩
  | cons command commands ih =>
    obtain ⟨hextends, hchanged, hshown⟩ := h.dispatch (hcommands command List.mem_cons_self)
    obtain ⟨hchanged', hshown'⟩ :=
      ih hextends fun other hother => hcommands other (List.mem_cons_of_mem _ hother)
    rw [dispatchAll_cons]
    refine ⟨hchanged.trans hchanged', ?_⟩
    rw [hshown', hshown, List.filterMap_cons]
    cases command.addedLine? with
    | none => rfl
    | some line => rfl

end ScriptState.ExtendsAt

end

/-- After a fill or a move, and continuations with remarks and lines that are no command between
them, the cell shows the lines joined behind the value, or behind what it showed before if the value
is blank. If that was blank too, they are joined behind the first line. No other cell has changed.
-/
theorem dispatchAll_joined {state : ScriptState} {s : Session Workbook} {command : Command}
    {i : Nat} {pos : Coord} {value : String} (htarget : command.Target state s i pos (.fill value))
    {commands : List Command} (hcommands : ∀ other ∈ commands, other.StaysPut) :
    let before := Document.text s.doc s.sheet pos
    let doc := (dispatchAll state s (command :: commands)).2.doc
    let after := Document.text doc s.sheet pos
    let lines := commands.filterMap (·.addedLine?)
    (Text.isBlankText value = false → after = "\n".intercalate (escaped value :: lines)) ∧
    (Text.isBlankText value = true → Text.isBlankText before = false →
      after = "\n".intercalate (before :: lines)) ∧
    (Text.isBlankText value = true → Text.isBlankText before = true →
      ∀ line rest, lines = line :: rest → Text.isBlankText line = false →
        after = "\n".intercalate (escaped line :: rest)) ∧
    (∀ j other, (j, other) ≠ (i, pos) → doc.cellAt? j other = s.doc.cellAt? j other) ∧
    doc.name = s.doc.name ∧ doc.sheetNames = s.doc.sheetNames := by
  intro before doc after lines
  obtain ⟨hfirst, hcell⟩ := htarget.changedAt
  obtain ⟨hrest, hshown⟩ := htarget.extendsAt.dispatchAll hcommands
  have hchanged : s.doc.ChangedAt i pos doc := hfirst.trans hrest
  have hbefore : before = s.doc.shownAt i pos := Workbook.text_eq_cellAt? htarget.1 pos
  have hafter : after = lines.foldl Session.appendedText
      (if Text.isBlankText value then before else escaped value) := by
    have hindex : doc.sheetIndex? s.sheet = some i := (hchanged.sheetIndex? s.sheet).trans htarget.1
    have hfilled : (dispatch state s command).2.doc.shownAt i pos =
        if Text.isBlankText value then before else escaped value := by
      rw [Workbook.shownAt, hcell, hbefore]
      exact ((Entry.fill value).turns_applied _).shown_fill
    rw [← hfilled, ← hshown]
    exact Workbook.text_eq_cellAt? hindex pos
  refine ⟨fun hvalue => ?_, fun hvalue hold => ?_, fun hvalue hold line rest hlines hline => ?_,
    hchanged.others, hchanged.name, hchanged.sheetNames⟩
  · rw [hafter, if_neg (Bool.eq_false_iff.1 hvalue), Session.foldl_appendedText]
    rw [isBlankText_escaped, hvalue]
  · rw [hafter, if_pos hvalue, Session.foldl_appendedText hold]
  · rw [hafter, if_pos hvalue, hlines, List.foldl_cons, Session.appendedText_of_blank hold,
      Session.foldl_appendedText]
    rw [isBlankText_escaped, hline]

/-- A sheet of gauges, one of which stands at minus two. -/
def gauges : Sheet :=
  (Sheet.withHeader "Gauges" ["Gauge", "Level"]).setCell ⟨1, 1⟩
    ⟨.number ⟨true, (Magnitude.ofRatio? 2 1).getD .zero⟩, .plain⟩

/-- A session in which the levels of the gauges are filled. -/
def gaugesSession : Session Workbook :=
  .start ⟨"Locks", [gauges]⟩ "Gauges" ["Level"]

/-- Lines that go on after a level, with a remark between them. -/
def gaugeCommands : List Command :=
  [.continuation "and falling", .comment, .continuation "-1 by noon"]

theorem dispatchAll_joined_gauges :
    (Command.titleAssign "Level" "").Target ⟨⟨1, 0⟩, .idle⟩ gaugesSession 0 ⟨1, 1⟩ (.fill "") ∧
      (∀ other ∈ gaugeCommands, other.StaysPut) ∧
      Document.text (dispatchAll ⟨⟨1, 0⟩, .idle⟩ gaugesSession
        (.titleAssign "Level" "" :: gaugeCommands)).2.doc "Gauges" ⟨1, 1⟩ =
          "-2\nand falling\n-1 by noon" := by
  have htarget : (Command.titleAssign "Level" "").Target ⟨⟨1, 0⟩, .idle⟩ gaugesSession 0 ⟨1, 1⟩
      (.fill "") :=
    ⟨by decide +kernel, _, .fill "" (by decide), by decide +kernel⟩
  have hcommands : ∀ other ∈ gaugeCommands, other.StaysPut := by decide
  have hbefore : Document.text gaugesSession.doc "Gauges" ⟨1, 1⟩ = "-2" := by decide +kernel
  obtain ⟨-, hkept, -⟩ := dispatchAll_joined htarget hcommands
  have hblank : Text.isBlankText (Document.text gaugesSession.doc "Gauges" ⟨1, 1⟩) = false := by
    rw [hbefore]
    decide
  refine ⟨htarget, hcommands, (hkept (by decide) hblank).trans ?_⟩
  rw [show gaugesSession.sheet = "Gauges" from rfl, hbefore]
  rfl

end FillScript
