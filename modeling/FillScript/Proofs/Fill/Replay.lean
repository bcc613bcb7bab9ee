import FillScript.Fill.Run
import Mathlib.Data.List.Induction

/-!
# Runs of commands

The commands of a sheet are carried out one after the other. What holds at the start and is kept by
every command holds after all of them (`dispatchAll_induction`); what is said may depend on the
commands that were carried out so far. What one command may make of a session is told by
`Session.Step`: it enters something at one place, or it only counts and reports
(`Session.Step.writes_or_notes`). So the setting of a session, which is its sheet, the columns to
fill, the header and the last row, is kept by every command (`SameSetting.dispatch`).
`Template.replay` is the state after the lines for a sheet.
-/

namespace FillScript

variable {δ : Type} [Document δ]

theorem dispatchAll_cons (state : ScriptState) (s : Session δ) (command : Command)
    (commands : List Command) :
    dispatchAll state s (command :: commands) =
      dispatchAll (dispatch state s command).1 (dispatch state s command).2 commands := rfl

theorem dispatchAll_append (state : ScriptState) (s : Session δ) (first second : List Command) :
    dispatchAll state s (first ++ second) =
      dispatchAll (dispatchAll state s first).1 (dispatchAll state s first).2 second := by
  rw [dispatchAll, List.foldl_append]
  rfl

theorem dispatchAll_concat (state : ScriptState) (s : Session δ) (commands : List Command)
    (command : Command) :
    dispatchAll state s (commands ++ [command]) =
      dispatch (dispatchAll state s commands).1 (dispatchAll state s commands).2 command :=
  dispatchAll_append state s commands [command]

/-- What holds at the start and is kept by every command holds after all of them. -/
theorem dispatchAll_induction {P : List Command → ScriptState → Session δ → Prop}
    {Q : Command → Prop} {state : ScriptState} {s : Session δ} (hstart : P [] state s)
    (hstep : ∀ {done : List Command} {state : ScriptState} {s : Session δ} {command : Command},
      P done state s → Q command →
        P (done ++ [command]) (dispatch state s command).1 (dispatch state s command).2)
    {commands : List Command} (hcommands : ∀ command ∈ commands, Q command) :
    P commands (dispatchAll state s commands).1 (dispatchAll state s commands).2 := by
  induction commands using List.reverseRecOn with
  | nil => exact hstart
  | append_singleton commands command ih =>
    have hdone := ih fun other hother => hcommands other (List.mem_append_left _ hother)
    rw [dispatchAll_concat]
    exact hstep hdone (hcommands command (List.mem_append_right _ List.mem_cons_self))

/-- A continuation leaves the cursor and the active command. -/
theorem state_dispatch_continuation (state : ScriptState) (s : Session δ) (text : String) :
    (dispatch state s (.continuation text)).1 = state := by
  obtain ⟨cursor, active⟩ := state
  cases active with
  | idle => rfl
  | fill title => rfl
  | move direction => rfl

/-! ## The active command -/

/-- The active command after a command, where the columns titled `fill` are filled. -/
def ActiveCommand.after (fill : List String) (active : ActiveCommand) : Command → ActiveCommand
  | .titleAssign title _ => if title ∈ fill then .fill title else active
  | .move direction _ => .move direction
  | .badMove _ => .idle
  | _ => active

/-- Which command is active depends on the commands alone. -/
theorem active_dispatch (state : ScriptState) (s : Session δ) (command : Command) :
    (dispatch state s command).1.active = state.active.after s.fillColumns command := by
  cases command with
  | titleAssign title value =>
    have hfill : s.isFillable title = true ↔ title ∈ s.fillColumns := List.contains_iff_mem
    simp only [dispatch, ActiveCommand.after]
    by_cases htitle : title ∈ s.fillColumns
    · rw [if_pos (hfill.2 htitle), if_pos htitle]
    · rw [if_neg fun h => htitle (hfill.1 h), if_neg htitle]
  | continuation text =>
    rw [state_dispatch_continuation]
    rfl
  | comment => rfl
  | rawFind mode value => rfl
  | move direction value => rfl
  | badMove line => rfl
  | unrecognized line => rfl

/-! ## What a command does -/

/-- Something that is written to a cell. -/
inductive Entry where
  /-- The value of a fill or a move. -/
  | fill (value : String)
  /-- A line that is added. -/
  | extend (line : String)

/-- The place to which a command writes, whether there is a cell or not, and what it writes. -/
inductive Command.WritesTo {δ : Type} (state : ScriptState) (s : Session δ) :
    Command → Cursor → Entry → Prop where
  | fill {title : String} (value : String) (htitle : title ∈ s.fillColumns) :
      WritesTo state s (.titleAssign title value) (state.cursor.withCol (s.columnOf title))
        (.fill value)
  | move (direction : Direction) (value : String) :
      WritesTo state s (.move direction value) (state.cursor.step direction) (.fill value)
  | extendFill {title : String} (line : String) (hactive : state.active = .fill title) :
      WritesTo state s (.continuation line) (state.cursor.withCol (s.columnOf title)) (.extend line)
  | extendMove {direction : Direction} (line : String) (hactive : state.active = .move direction) :
      WritesTo state s (.continuation line) state.cursor (.extend line)

namespace Session

/-- The session after something was written at a cursor. -/
def enter (s : Session δ) (c : Cursor) : Entry → Session δ
  | .fill value => s.write c value
  | .extend line => s.append c line

/-- What a command may make of a session. Of a find this does not say what is found. -/
inductive Step (state : ScriptState) (s : Session δ) : Command → Session δ → Prop where
  | comment : Step state s .comment s
  | enter {command : Command} {c : Cursor} {entry : Entry}
      (hwrites : command.WritesTo state s c entry) : Step state s command (s.enter c entry)
  | search {title : String} (value : String) (htitle : title ∉ s.fillColumns)
      (hit : Option Coord) : Step state s (.titleAssign title value) (s.found hit value).2
  | find (mode : FindMode) (value : String) (hit : Option Coord) :
      Step state s (.rawFind mode value) (s.found hit value).2
  | drop (text : String) (hidle : state.active = .idle) :
      Step state s (.continuation text) (s.report (.dropped text s.sheet))
  | badMove (line : String) : Step state s (.badMove line) (s.noteUnrecognized line)
  | unrecognized (line : String) : Step state s (.unrecognized line) (s.noteUnrecognized line)

theorem dispatch_of_writesTo {state : ScriptState} {s : Session δ} {command : Command} {c : Cursor}
    {entry : Entry} (h : command.WritesTo state s c entry) :
    (dispatch state s command).2 = s.enter c entry := by
  cases h with
  | fill value htitle =>
    have hfill : s.isFillable _ = true := List.contains_iff_mem.2 htitle
    simp only [dispatch, hfill, if_true, enter]
  | move direction value => rfl
  | extendFill line hactive => simp only [dispatch, hactive, enter]
  | extendMove line hactive => simp only [dispatch, hactive, enter]

theorem step_dispatch (state : ScriptState) (s : Session δ) (command : Command) :
    s.Step state command (dispatch state s command).2 := by
  have hwrite {c : Cursor} {entry : Entry} (hwrites : command.WritesTo state s c entry) :
      s.Step state command (dispatch state s command).2 := by
    rw [dispatch_of_writesTo hwrites]
    exact .enter hwrites
  cases command with
  | comment => exact .comment
  | titleAssign title value =>
    by_cases htitle : title ∈ s.fillColumns
    · exact hwrite (.fill value htitle)
    · have hfill : ¬s.isFillable title = true := fun h => htitle (List.contains_iff_mem.1 h)
      simp only [dispatch, if_neg hfill]
      exact .search value htitle _
  | rawFind mode value => exact .find mode value _
  | move direction value => exact hwrite (.move direction value)
  | continuation text =>
    cases hactive : state.active with
    | idle =>
      simp only [dispatch, hactive]
      exact .drop text hactive
    | fill title => exact hwrite (.extendFill text hactive)
    | move direction => exact hwrite (.extendMove text hactive)
  | badMove line => exact .badMove line
  | unrecognized line => exact .unrecognized line

/-- A command writes somewhere, or it only counts and reports. -/
theorem Step.writes_or_notes {state : ScriptState} {s t : Session δ} {command : Command}
    (h : s.Step state command t) :
    (∃ c entry, command.WritesTo state s c entry ∧ t = s.enter c entry) ∨
      ∃ stats log, t = { s with stats, log } := by
  have hfound (hit : Option Coord) (value : String) :
      ∃ stats log, (s.found hit value).2 = { s with stats, log } := by
    cases hit with
    | none => exact ⟨_, _, rfl⟩
    | some pos => exact ⟨_, _, rfl⟩
  cases h with
  | comment => exact .inr ⟨_, _, rfl⟩
  | enter hwrites => exact .inl ⟨_, _, hwrites, rfl⟩
  | search value _ hit => exact .inr (hfound hit value)
  | find mode value hit => exact .inr (hfound hit value)
  | drop text _ => exact .inr ⟨_, _, rfl⟩
  | badMove line => exact .inr ⟨_, _, rfl⟩
  | unrecognized line => exact .inr ⟨_, _, rfl⟩

end Session

/-! ## The setting of a session -/

namespace Session

/-- Sessions with one setting. They may differ in the document and in what was counted and reported.
-/
structure SameSetting {δ : Type} (s t : Session δ) : Prop where
  sheet : t.sheet = s.sheet
  fillColumns : t.fillColumns = s.fillColumns
  header : t.header = s.header
  lastRow : t.lastRow = s.lastRow

namespace SameSetting

theorem refl {δ : Type} (s : Session δ) : SameSetting s s :=
  ⟨rfl, rfl, rfl, rfl⟩

theorem trans {δ : Type} {r s t : Session δ} (first : SameSetting r s) (second : SameSetting s t) :
    SameSetting r t where
  sheet := second.sheet.trans first.sheet
  fillColumns := second.fillColumns.trans first.fillColumns
  header := second.header.trans first.header
  lastRow := second.lastRow.trans first.lastRow

theorem columnOf {δ : Type} {s t : Session δ} (h : SameSetting s t) (title : String) :
    t.columnOf title = s.columnOf title := by
  rw [Session.columnOf, Session.columnOf, h.header]

theorem found {δ : Type} (s : Session δ) (hit : Option Coord) (value : String) :
    SameSetting s (s.found hit value).2 := by
  cases hit with
  | none => exact ⟨rfl, rfl, rfl, rfl⟩
  | some pos => exact ⟨rfl, rfl, rfl, rfl⟩

variable (s : Session δ)

theorem write (c : Cursor) (value : String) : SameSetting s (s.write c value) := by
  unfold Session.write
  cases c.coord? with
  | none => exact ⟨rfl, rfl, rfl, rfl⟩
  | some pos =>
    dsimp only
    cases s.stored pos value with
    | ok doc => exact ⟨rfl, rfl, rfl, rfl⟩
    | error e => exact ⟨rfl, rfl, rfl, rfl⟩

theorem append (c : Cursor) (line : String) : SameSetting s (s.append c line) := by
  unfold Session.append
  cases c.coord? with
  | none => exact ⟨rfl, rfl, rfl, rfl⟩
  | some pos =>
    dsimp only
    split
    · exact ⟨rfl, rfl, rfl, rfl⟩
    · exact ⟨rfl, rfl, rfl, rfl⟩

theorem enter (c : Cursor) (entry : Entry) : SameSetting s (s.enter c entry) := by
  cases entry with
  | fill value => exact write s c value
  | extend line => exact append s c line

/-- A command keeps the setting. -/
theorem dispatch (state : ScriptState) (command : Command) :
    SameSetting s (FillScript.dispatch state s command).2 := by
  rcases (step_dispatch state s command).writes_or_notes with
    ⟨c, entry, -, hwrites⟩ | ⟨stats, log, hnotes⟩
  · rw [hwrites]
    exact enter s c entry
  · rw [hnotes]
    exact ⟨rfl, rfl, rfl, rfl⟩

/-- Commands keep the setting. -/
theorem dispatchAll (state : ScriptState) (commands : List Command) :
    SameSetting s (FillScript.dispatchAll state s commands).2 := by
  induction commands generalizing state s with
  | nil => exact refl s
  | cons command commands ih =>
    rw [dispatchAll_cons]
    exact (dispatch s state command).trans (ih _ _)

end SameSetting

end Session

namespace Template

/-- The script and its session after lines for a sheet. -/
def replay (template : Template) (doc : δ) (sheet : String) (lines : List String) :
    ScriptState × Session δ :=
  dispatchAll .start (.start doc sheet template.fillColumns)
    (lines.map (Command.ofLine template.useTitle))

theorem runSheet_eq_replay (template : Template) (doc : δ) (sheet : String)
    (lines : List String) :
    template.runSheet doc sheet lines = (template.replay doc sheet lines).2 := rfl

theorem replay_append (template : Template) (doc : δ) (sheet : String)
    (first second : List String) :
    template.replay doc sheet (first ++ second) =
      dispatchAll (template.replay doc sheet first).1 (template.replay doc sheet first).2
        (second.map (Command.ofLine template.useTitle)) := by
  rw [replay, List.map_append, dispatchAll_append]
  rfl

theorem replay_concat (template : Template) (doc : δ) (sheet : String) (lines : List String)
    (line : String) :
    template.replay doc sheet (lines ++ [line]) =
      dispatch (template.replay doc sheet lines).1 (template.replay doc sheet lines).2
        (Command.ofLine template.useTitle line) :=
  template.replay_append doc sheet lines [line]

/-- Lines keep the setting. -/
theorem sameSetting_replay (template : Template) (doc : δ) (sheet : String)
    (lines : List String) :
    Session.SameSetting (.start doc sheet template.fillColumns)
      (template.replay doc sheet lines).2 :=
  .dispatchAll _ _ _

theorem sheet_replay (template : Template) (doc : δ) (sheet : String) (lines : List String) :
    (template.replay doc sheet lines).2.sheet = sheet :=
  (template.sameSetting_replay doc sheet lines).sheet

end Template

end FillScript
