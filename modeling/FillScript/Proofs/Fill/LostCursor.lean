import FillScript.Proofs.Fill.Replay
import FillScript.Proofs.Fill.Search
import FillScript.Proofs.Fill.Writing
import FillScript.Proofs.Script.Command

/-!
# Lost cursors

A cursor above or to the left of the sheet stands at no cell. What is to be written there is
skipped, and only a find places the cursor again.

That a lost cursor stays lost cannot be told from a single command. A fill takes the column of its
title in place of the one that the cursor has, so that a cursor that was lost to the left only would
write again. It is the mode of a script that rules this out (`ScriptState.InMode`): where columns
are addressed by title a cursor comes from a search, and a lost one has no row either; where cells
are found, nothing is filled by title. `dispatch_lost` says what one command does at a lost cursor
and `replay_lost` what all lines do until the next hit.
-/

namespace FillScript

/-! ## What commands ask for -/

/-- Whether a command asks for a cell to be written: fills and moves do, and continuations where a
command is active. -/
def Command.asksToWrite (fill : List String) (active : ActiveCommand) : Command → Bool
  | titleAssign title _ => fill.contains title
  | move _ _ => true
  | continuation _ => !active.isIdle
  | _ => false

/-- How many commands, of some that are carried out in order, ask for a cell to be written. -/
def writesAsked (fill : List String) (active : ActiveCommand) : List Command → Nat
  | [] => 0
  | command :: commands =>
    (command.asksToWrite fill active).toNat +
      writesAsked fill (active.after fill command) commands

/-! ## Hits are counted -/

section

variable {δ : Type} [Document δ] (state : ScriptState) (s : Session δ)

namespace Session

theorem findsHit_write (c : Cursor) (value : String) :
    (s.write c value).stats.findsHit = s.stats.findsHit := by
  unfold write
  cases c.coord? with
  | none => rfl
  | some pos =>
    dsimp only
    cases s.stored pos value with
    | ok doc => rfl
    | error e => rfl

theorem findsHit_append (c : Cursor) (line : String) :
    (s.append c line).stats.findsHit = s.stats.findsHit := by
  unfold append
  cases c.coord? with
  | none => rfl
  | some pos =>
    dsimp only
    split
    · rfl
    · rfl

theorem le_findsHit_found {δ : Type} (s : Session δ) (hit : Option Coord) (value : String) :
    s.stats.findsHit ≤ (s.found hit value).2.stats.findsHit := by
  cases hit with
  | none => exact Nat.le_refl _
  | some pos => exact Nat.le_succ _

variable {s}

theorem Step.le_findsHit {state : ScriptState} {t : Session δ} {command : Command}
    (h : s.Step state command t) : s.stats.findsHit ≤ t.stats.findsHit := by
  cases h with
  | comment => exact Nat.le_refl _
  | @enter _ c entry _ =>
    cases entry with
    | fill value => exact Nat.le_of_eq (s.findsHit_write c value).symm
    | extend line => exact Nat.le_of_eq (s.findsHit_append c line).symm
  | search value _ hit => exact s.le_findsHit_found hit value
  | find mode value hit => exact s.le_findsHit_found hit value
  | drop text _ => exact Nat.le_refl _
  | badMove line => exact Nat.le_refl _
  | unrecognized line => exact Nat.le_refl _

end Session

theorem le_findsHit_dispatch (command : Command) :
    s.stats.findsHit ≤ (dispatch state s command).2.stats.findsHit :=
  (Session.step_dispatch state s command).le_findsHit

theorem le_findsHit_dispatchAll (commands : List Command) :
    s.stats.findsHit ≤ (dispatchAll state s commands).2.stats.findsHit := by
  induction commands generalizing state s with
  | nil => exact Nat.le_refl _
  | cons command commands ih =>
    rw [dispatchAll_cons]
    exact Nat.le_trans (le_findsHit_dispatch state s command) (ih _ _)

end

/-! ## Lost cursors and modes -/

namespace Cursor

/-- A cursor above or to the left of the sheet. -/
def IsLost (c : Cursor) : Prop :=
  c.row < 0 ∨ c.col < 0

instance (c : Cursor) : Decidable c.IsLost :=
  inferInstanceAs (Decidable (_ ∨ _))

theorem isLost_lost : lost.IsLost :=
  .inl (by decide)

theorem not_isLost_ofCoord (pos : Coord) : ¬(ofCoord pos).IsLost := by
  intro hlost
  have hrow : (0 : Int) ≤ (ofCoord pos).row := Int.natCast_nonneg _
  have hcol : (0 : Int) ≤ (ofCoord pos).col := Int.natCast_nonneg _
  rcases hlost with hneg | hneg
  · omega
  · omega

theorem coord?_of_row_neg {c : Cursor} (hrow : c.row < 0) : c.coord? = none := by
  rw [coord?, Coord.ofInts?, Coord.word?_of_neg hrow]
  rfl

/-- There is no cell at a lost cursor. -/
theorem IsLost.coord? {c : Cursor} (hlost : c.IsLost) : c.coord? = none := by
  rcases hlost with hrow | hcol
  · exact coord?_of_row_neg hrow
  · rw [Cursor.coord?, Coord.ofInts?, Coord.word?_of_neg hcol]
    cases Coord.word? c.row <;> rfl

/-- From a lost cursor no move leads back. -/
theorem IsLost.step {c : Cursor} (hlost : c.IsLost) (direction : Direction) :
    c.step direction = lost := by
  have hvalid : ¬c.isValid = true := by
    intro hvalid
    simp only [isValid, Bool.and_eq_true, decide_eq_true_eq] at hvalid
    obtain ⟨hrow, hcol⟩ := hvalid
    rcases hlost with hneg | hneg
    · omega
    · omega
  rw [Cursor.step, if_neg hvalid]

end Cursor

/-- What is known of a script in one of the two modes. Where columns are addressed by title, the
cursor is where a search led; where cells are found, nothing is filled by title. -/
def ScriptState.InMode (useTitle : Bool) (state : ScriptState) : Prop :=
  if useTitle then state.cursor = .lost ∨ ∃ pos, state.cursor = .ofCoord pos
  else ∀ title, state.active ≠ .fill title

theorem ScriptState.InMode.useTitle {useTitle : Bool} {state : ScriptState} {title : String}
    (h : state.InMode useTitle) (hactive : state.active = .fill title) : useTitle = true := by
  cases useTitle with
  | true => rfl
  | false =>
    have hnone : ∀ t, state.active ≠ .fill t := h
    exact absurd hactive (hnone title)

section

variable {δ : Type} [Document δ] {state : ScriptState} {s : Session δ} {useTitle : Bool}

/-- Commands of a mode keep what is known in it. -/
theorem ScriptState.InMode.dispatch (h : state.InMode useTitle) {command : Command}
    (hcommand : command.InMode useTitle) :
    (FillScript.dispatch state s command).1.InMode useTitle := by
  cases useTitle with
  | true =>
    have hcursor : state.cursor = .lost ∨ ∃ pos, state.cursor = .ofCoord pos := h
    show (FillScript.dispatch state s command).1.cursor = .lost ∨
      ∃ pos, (FillScript.dispatch state s command).1.cursor = .ofCoord pos
    cases (show command.IsTitle from hcommand) with
    | comment => exact hcursor
    | titleAssign title value =>
      simp only [FillScript.dispatch]
      split
      · exact hcursor
      · simp only [Session.findInColumn, Session.cursor_found]
        cases (Coord.word? (s.columnOf title)).bind _ with
        | none => exact .inl rfl
        | some pos => exact .inr ⟨pos, rfl⟩
    | continuation text =>
      rw [state_dispatch_continuation]
      exact hcursor
  | false =>
    have hactive : ∀ title, state.active ≠ .fill title := h
    have hnone : ∀ title value, command ≠ .titleAssign title value := hcommand
    show ∀ title, (FillScript.dispatch state s command).1.active ≠ .fill title
    intro title
    rw [active_dispatch]
    cases command with
    | titleAssign title value => exact absurd rfl (hnone title value)
    | move direction value => simp [ActiveCommand.after]
    | badMove line => simp [ActiveCommand.after]
    | comment => exact hactive title
    | rawFind mode value => exact hactive title
    | continuation text => exact hactive title
    | unrecognized line => exact hactive title

end

/-! ## Skipped writes -/

/-- A session in which, since an earlier one, nothing was written and so many writes were skipped.
-/
structure Session.Skipped {δ : Type} (count : Nat) (s t : Session δ) : Prop where
  doc : t.doc = s.doc
  writes : t.stats.writes = s.stats.writes
  appends : t.stats.appends = s.stats.appends
  skippedWrites : t.stats.skippedWrites = s.stats.skippedWrites + count

namespace Session.Skipped

section

variable {δ : Type} {r s t : Session δ}

theorem none (s : Session δ) : Skipped 0 s s :=
  ⟨rfl, rfl, rfl, rfl⟩

theorem trans {first second : Nat} (hfirst : Skipped first r s) (hsecond : Skipped second s t) :
    Skipped (first + second) r t where
  doc := hsecond.doc.trans hfirst.doc
  writes := hsecond.writes.trans hfirst.writes
  appends := hsecond.appends.trans hfirst.appends
  skippedWrites := by
    have hr := hfirst.skippedWrites
    have hs := hsecond.skippedWrites
    omega

theorem found (s : Session δ) (hit : Option Coord) (value : String) :
    Skipped 0 s (s.found hit value).2 := by
  cases hit with
  | none => exact ⟨rfl, rfl, rfl, rfl⟩
  | some pos => exact ⟨rfl, rfl, rfl, rfl⟩

end

variable {δ : Type} [Document δ] {s : Session δ} {c : Cursor} (hpos : c.coord? = Option.none)
include hpos

theorem write (value : String) : Skipped 1 s (s.write c value) := by
  rw [write_of_coord?_none hpos]
  exact ⟨rfl, rfl, rfl, rfl⟩

theorem append (line : String) : Skipped 1 s (s.append c line) := by
  rw [append_of_coord?_none hpos]
  exact ⟨rfl, rfl, rfl, rfl⟩

end Session.Skipped

/-- A search that is no hit leaves the cursor lost. -/
theorem Session.isLost_found {δ : Type} {s : Session δ} {hit : Option Coord} {value : String}
    (hmiss : (s.found hit value).2.stats.findsHit = s.stats.findsHit) :
    (s.found hit value).1.IsLost := by
  cases hit with
  | none => exact Cursor.isLost_lost
  | some pos => exact absurd hmiss (Nat.succ_ne_self _)

/-! ## Commands at a lost cursor -/

section

variable {δ : Type} [Document δ] {state : ScriptState} {s : Session δ} {useTitle : Bool}

/-- A lost cursor has no cell beside it in the column of a title, as long as titles are in use. -/
theorem ScriptState.InMode.coord?_withCol (h : state.InMode true) (hlost : state.cursor.IsLost)
    (col : Int) : (state.cursor.withCol col).coord? = none := by
  have hcursor : state.cursor = .lost ∨ ∃ pos, state.cursor = .ofCoord pos := h
  rcases hcursor with hcursor | ⟨pos, hcursor⟩
  · rw [hcursor]
    exact Cursor.coord?_of_row_neg (show (-1 : Int) < 0 by decide)
  · rw [hcursor] at hlost
    exact absurd hlost (Cursor.not_isLost_ofCoord pos)

/-- At a lost cursor a command that is no hit writes nothing. The cursor stays lost, and a write
that is asked for is skipped. -/
theorem dispatch_lost (hmode : state.InMode useTitle) (hlost : state.cursor.IsLost)
    {command : Command} (hcommand : command.InMode useTitle)
    (hmiss : (dispatch state s command).2.stats.findsHit = s.stats.findsHit) :
    (dispatch state s command).1.cursor.IsLost ∧
      Session.Skipped (command.asksToWrite s.fillColumns state.active).toNat s
        (dispatch state s command).2 := by
  cases command with
  | comment => exact ⟨hlost, .none s⟩
  | titleAssign title value =>
    obtain rfl := hcommand.useTitle
    simp only [dispatch] at hmiss ⊢
    by_cases hfill : s.isFillable title = true
    · rw [if_pos hfill] at hmiss ⊢
      have hasks :
          (Command.titleAssign title value).asksToWrite s.fillColumns state.active = true := hfill
      rw [hasks]
      exact ⟨hlost, .write (hmode.coord?_withCol hlost _) value⟩
    · rw [if_neg hfill] at hmiss ⊢
      have hasks :
          (Command.titleAssign title value).asksToWrite s.fillColumns state.active = false :=
        Bool.eq_false_iff.2 hfill
      rw [hasks]
      exact ⟨Session.isLost_found hmiss, .found s _ value⟩
  | rawFind mode value => exact ⟨Session.isLost_found hmiss, .found s _ value⟩
  | move direction value =>
    have hstep := hlost.step direction
    refine ⟨?_, .write ?_ value⟩
    · show (state.cursor.step direction).IsLost
      rw [hstep]
      exact Cursor.isLost_lost
    · rw [hstep]
      exact Cursor.isLost_lost.coord?
  | continuation text =>
    simp only [dispatch, Command.asksToWrite]
    cases hactive : state.active with
    | idle => exact ⟨hlost, rfl, rfl, rfl, rfl⟩
    | move direction => exact ⟨hlost, .append hlost.coord? text⟩
    | fill title =>
      obtain rfl := hmode.useTitle hactive
      exact ⟨hlost, .append (hmode.coord?_withCol hlost _) text⟩
  | badMove line => exact ⟨hlost, rfl, rfl, rfl, rfl⟩
  | unrecognized line => exact ⟨hlost, rfl, rfl, rfl, rfl⟩

/-- At a lost cursor commands without a hit write nothing. -/
theorem dispatchAll_lost (hmode : state.InMode useTitle) (hlost : state.cursor.IsLost)
    {commands : List Command} (hcommands : ∀ command ∈ commands, command.InMode useTitle)
    (hmiss : (dispatchAll state s commands).2.stats.findsHit = s.stats.findsHit) :
    (dispatchAll state s commands).1.cursor.IsLost ∧
      Session.Skipped (writesAsked s.fillColumns state.active commands) s
        (dispatchAll state s commands).2 := by
  induction commands generalizing state s with
  | nil => exact ⟨hlost, .none s⟩
  | cons command commands ih =>
    rw [dispatchAll_cons] at hmiss ⊢
    -- no hit in all of them is no hit in the first and none in the others
    have hfirst := le_findsHit_dispatch state s command
    have hothers := le_findsHit_dispatchAll (dispatch state s command).1
      (dispatch state s command).2 commands
    have hcommand := hcommands command List.mem_cons_self
    have hmiss₁ : (dispatch state s command).2.stats.findsHit = s.stats.findsHit := by omega
    have hmiss₂ : (dispatchAll (dispatch state s command).1 (dispatch state s command).2
        commands).2.stats.findsHit = (dispatch state s command).2.stats.findsHit := by omega
    obtain ⟨hlost', hskipped⟩ := dispatch_lost hmode hlost hcommand hmiss₁
    have hrest := ih (hmode.dispatch hcommand) hlost'
      (fun other hother => hcommands other (List.mem_cons_of_mem _ hother)) hmiss₂
    rw [(Session.SameSetting.dispatch s state command).fillColumns, active_dispatch] at hrest
    exact ⟨hrest.1, hskipped.trans hrest.2⟩

/-- The lines for a sheet keep what is known in the mode of their script. -/
theorem Template.inMode_replay (template : Template) (doc : δ) (sheet : String)
    (lines : List String) :
    (template.replay doc sheet lines).1.InMode template.useTitle := by
  refine dispatchAll_induction (P := fun _ state _ => state.InMode template.useTitle)
    (Q := Command.InMode template.useTitle) ?_ (fun h hcommand => h.dispatch hcommand) ?_
  · cases template.useTitle with
    | true => exact .inl rfl
    | false => exact fun title => ActiveCommand.noConfusion
  · intro command hcommand
    obtain ⟨line, -, rfl⟩ := List.mem_map.1 hcommand
    exact Command.inMode_ofLine _ line

end

/-- From a point at which the cursor is lost, as long as no line is a hit, the cursor stays lost,
the document stays as it is, no write and no added line is counted, and every fill, every move and
every continuation of an active command is counted as a skipped write. -/
theorem replay_lost {δ : Type} [Document δ] {template : Template} {doc : δ} {sheet : String}
    {before after : List String}
    (hlost : (template.replay doc sheet before).1.cursor.IsLost)
    (hmiss : (template.replay doc sheet (before ++ after)).2.stats.findsHit =
      (template.replay doc sheet before).2.stats.findsHit) {done : List String}
    (hdone : done <+: after) :
    (template.replay doc sheet (before ++ done)).1.cursor.IsLost ∧
    (template.replay doc sheet (before ++ done)).2.doc =
      (template.replay doc sheet before).2.doc ∧
    (template.replay doc sheet (before ++ done)).2.stats.writes =
      (template.replay doc sheet before).2.stats.writes ∧
    (template.replay doc sheet (before ++ done)).2.stats.appends =
      (template.replay doc sheet before).2.stats.appends ∧
    (template.replay doc sheet (before ++ done)).2.stats.skippedWrites =
      (template.replay doc sheet before).2.stats.skippedWrites +
        writesAsked template.fillColumns (template.replay doc sheet before).1.active
          (done.map (Command.ofLine template.useTitle)) := by
  obtain ⟨rest, rfl⟩ := hdone
  have hfill : (template.replay doc sheet before).2.fillColumns = template.fillColumns :=
    (template.sameSetting_replay doc sheet before).fillColumns
  -- no hit in all lines is no hit in those that are done
  have hstart := le_findsHit_dispatchAll (template.replay doc sheet before).1
    (template.replay doc sheet before).2 (done.map (Command.ofLine template.useTitle))
  have hend := le_findsHit_dispatchAll (template.replay doc sheet (before ++ done)).1
    (template.replay doc sheet (before ++ done)).2 (rest.map (Command.ofLine template.useTitle))
  rw [← template.replay_append] at hstart hend
  rw [← List.append_assoc] at hmiss
  have hcommands : ∀ command ∈ done.map (Command.ofLine template.useTitle),
      command.InMode template.useTitle := by
    intro command hcommand
    obtain ⟨line, -, rfl⟩ := List.mem_map.1 hcommand
    exact Command.inMode_ofLine _ line
  obtain ⟨hlost', hskipped⟩ := dispatchAll_lost (template.inMode_replay doc sheet before) hlost
    hcommands (by rw [← template.replay_append]; omega)
  rw [← template.replay_append, hfill] at hskipped
  rw [← template.replay_append] at hlost'
  exact ⟨hlost', hskipped.doc, hskipped.writes, hskipped.appends, hskipped.skippedWrites⟩

/-- A sheet with one title. -/
def ledger : Sheet :=
  .withHeader "Ledger" ["Total"]

/-- Lines of a script that finds cells, after which it has moved off the top of the sheet. -/
def linesOffTheTop : List String :=
  ["cell equals:Total", "add-t:9"]

/-- The script in that sheet. -/
def ledgerAfter (lines : List String) : ScriptState × Session Workbook :=
  Template.replay ⟨.empty, .empty, false, [], [], .empty⟩ (Workbook.mk "Books" [ledger]) "Ledger"
    lines

theorem replay_lost_ledger :
    (ledgerAfter linesOffTheTop).1.cursor.IsLost ∧
      (ledgerAfter (linesOffTheTop ++ ["more", "add-b:8", "cell starts:Sum"])).2.stats.findsHit =
        (ledgerAfter linesOffTheTop).2.stats.findsHit ∧
      ["more", "add-b:8"] <+: ["more", "add-b:8", "cell starts:Sum"] ∧
      (ledgerAfter linesOffTheTop).2.stats.skippedWrites = 1 ∧
      (ledgerAfter (linesOffTheTop ++ ["more", "add-b:8"])).2.stats.skippedWrites = 3 := by
  have hlost : (ledgerAfter linesOffTheTop).1.cursor.IsLost := by decide
  have hmiss :
      (ledgerAfter (linesOffTheTop ++ ["more", "add-b:8", "cell starts:Sum"])).2.stats.findsHit =
        (ledgerAfter linesOffTheTop).2.stats.findsHit := by decide
  have hdone : ["more", "add-b:8"] <+: ["more", "add-b:8", "cell starts:Sum"] := by decide
  refine ⟨hlost, hmiss, hdone, by decide, ?_⟩
  obtain ⟨-, -, -, -, hskipped⟩ := replay_lost hlost hmiss hdone
  exact hskipped.trans (by decide)

end FillScript
