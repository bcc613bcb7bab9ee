import FillScript.Fill.Run
import FillScript.Proofs.Fill.Target

/-!
# What is counted and reported

Every command counts as one thing, told by the command, the columns to fill and the active command
that it meets (`Command.kind`): a find, a write, a line that is not understood, a continuation that
is dropped, or a remark. So what the lines for a sheet count as is told by the lines alone
(`kindsMet`), and not by what is in the sheet. A find is a hit or a miss, a write is one of a value
or of a line or is skipped, and each command but a remark is reported by one event
(`Session.Accounts`). The kinds of its commands account for the counts and the log of a run
(`Session.accounts_dispatchAll`, `runSheet_accounts`).
-/

namespace FillScript

/-! ## Kinds of commands -/

/-- What a command counts as. -/
inductive CommandKind where
  | find
  | write
  | unknown
  | dropped
  | remark
deriving DecidableEq

namespace CommandKind

/-- There are no other kinds. -/
theorem length_eq_counts (kinds : List CommandKind) :
    kinds.length = kinds.count find + kinds.count write + kinds.count unknown +
      kinds.count dropped + kinds.count remark := by
  induction kinds with
  | nil => rfl
  | cons kind kinds ih =>
    rw [List.length_cons, ih]
    cases kind <;> simp <;> omega

end CommandKind

/-- What a command counts as where the columns titled `fill` are filled. -/
def Command.kind (fill : List String) (active : ActiveCommand) : Command → CommandKind
  | comment => .remark
  | titleAssign title _ => if title ∈ fill then .write else .find
  | rawFind _ _ => .find
  | move _ _ => .write
  | continuation _ => if active.isIdle then .dropped else .write
  | badMove _ => .unknown
  | unrecognized _ => .unknown

theorem Command.WritesTo.kind {δ : Type} {state : ScriptState} {s : Session δ} {command : Command}
    {c : Cursor} {entry : Entry} (h : command.WritesTo state s c entry) :
    command.kind s.fillColumns state.active = .write := by
  cases h with
  | fill value htitle => rw [Command.kind, if_pos htitle]
  | move direction value => rfl
  | extendFill line hactive =>
    rw [Command.kind, hactive]
    rfl
  | extendMove line hactive =>
    rw [Command.kind, hactive]
    rfl

/-- What commands that are carried out in order count as, each with the active command it meets. -/
def kindsMet (fill : List String) (active : ActiveCommand) : List Command → List CommandKind
  | [] => []
  | command :: commands =>
    command.kind fill active :: kindsMet fill (active.after fill command) commands

theorem length_kindsMet (fill : List String) (active : ActiveCommand) (commands : List Command) :
    (kindsMet fill active commands).length = commands.length := by
  induction commands generalizing active with
  | nil => rfl
  | cons command commands ih => rw [kindsMet, List.length_cons, ih, List.length_cons]

/-! ## Accounts -/

namespace Session

/-- A session in which, since an earlier one, commands of some kinds were counted and reported. -/
structure Accounts {δ : Type} (kinds : List CommandKind) (s t : Session δ) : Prop where
  finds : t.stats.findsHit + t.stats.findsMissed =
    s.stats.findsHit + s.stats.findsMissed + kinds.count .find
  writes : t.stats.writes + t.stats.appends + t.stats.skippedWrites =
    s.stats.writes + s.stats.appends + s.stats.skippedWrites + kinds.count .write
  unrecognized : t.stats.unrecognized = s.stats.unrecognized + kinds.count .unknown
  log : ∃ events : Log, t.log = s.log ++ events ∧
    events.size + kinds.count .remark = kinds.length

namespace Accounts

section

variable {δ : Type} {r s t : Session δ}

theorem none (s : Session δ) : Accounts [] s s :=
  ⟨rfl, rfl, rfl, #[], Array.append_empty.symm, rfl⟩

theorem trans {first second : List CommandKind} (hfirst : Accounts first r s)
    (hsecond : Accounts second s t) : Accounts (first ++ second) r t where
  finds := by
    rw [hsecond.finds, hfirst.finds, List.count_append]
    omega
  writes := by
    rw [hsecond.writes, hfirst.writes, List.count_append]
    omega
  unrecognized := by
    rw [hsecond.unrecognized, hfirst.unrecognized, List.count_append]
    omega
  log := by
    obtain ⟨events, hlog, hsize⟩ := hfirst.log
    obtain ⟨events', hlog', hsize'⟩ := hsecond.log
    refine ⟨events ++ events', ?_, ?_⟩
    · rw [hlog', hlog, Array.append_assoc]
    · rw [Array.size_append, List.count_append, List.length_append]
      omega

/-- A remark says nothing. -/
theorem remark (s : Session δ) : Accounts [.remark] s s :=
  ⟨rfl, rfl, rfl, #[], Array.append_empty.symm, rfl⟩

theorem dropped (s : Session δ) (event : Event) : Accounts [.dropped] s (s.report event) :=
  ⟨rfl, rfl, rfl, #[event], Array.append_singleton.symm, rfl⟩

theorem unknown (s : Session δ) (line : String) : Accounts [.unknown] s (s.noteUnrecognized line) :=
  ⟨rfl, rfl, rfl, #[_], Array.append_singleton.symm, rfl⟩

theorem found (s : Session δ) (hit : Option Coord) (value : String) :
    Accounts [.find] s (s.found hit value).2 := by
  cases hit with
  | none => exact ⟨rfl, rfl, rfl, #[_], Array.append_singleton.symm, rfl⟩
  | some pos =>
    refine ⟨?_, rfl, rfl, #[_], Array.append_singleton.symm, rfl⟩
    show s.stats.findsHit + 1 + s.stats.findsMissed = s.stats.findsHit + s.stats.findsMissed + 1
    omega

theorem skip (s : Session δ) (c : Cursor) (value : String) :
    Accounts [.write] s (s.skip c value) :=
  ⟨rfl, rfl, rfl, #[_], Array.append_singleton.symm, rfl⟩

end

variable {workbook : Workbook} {live : Sheet} {s : Session Workbook}

theorem enter (h : On workbook live s) (c : Cursor) (entry : Entry) :
    Accounts [.write] s (s.enter c entry) := by
  cases hpos : c.coord? with
  | none =>
    cases entry with
    | fill value =>
      rw [Session.enter, write_of_coord?_none hpos]
      exact skip s c value
    | extend line =>
      rw [Session.enter, append_of_coord?_none hpos]
      exact skip s c line
  | some pos =>
    cases entry with
    | fill value =>
      rw [Session.enter, h.write_of_some hpos]
      refine ⟨rfl, ?_, rfl, #[_], Array.append_singleton.symm, rfl⟩
      show s.stats.writes + 1 + s.stats.appends + s.stats.skippedWrites =
        s.stats.writes + s.stats.appends + s.stats.skippedWrites + 1
      omega
    | extend line =>
      rw [Session.enter, h.append_of_some hpos]
      refine ⟨rfl, ?_, rfl, #[_], Array.append_singleton.symm, rfl⟩
      show s.stats.writes + (s.stats.appends + 1) + s.stats.skippedWrites =
        s.stats.writes + s.stats.appends + s.stats.skippedWrites + 1
      omega

end Accounts

variable {state : ScriptState} {s : Session Workbook} {i : Nat}

/-- A command is counted and reported as what it counts as. -/
theorem Step.accounts {workbook : Workbook} {live : Sheet} {t : Session Workbook}
    {command : Command} (h : s.Step state command t) (hon : On workbook live s) :
    Accounts [command.kind s.fillColumns state.active] s t := by
  cases h with
  | comment => exact .remark s
  | enter hwrites =>
    rw [hwrites.kind]
    exact .enter hon _ _
  | search value htitle hit =>
    rw [Command.kind, if_neg htitle]
    exact .found s hit value
  | find mode value hit => exact .found s hit value
  | drop text hidle =>
    rw [Command.kind, hidle]
    exact .dropped s _
  | badMove line => exact .unknown s line
  | unrecognized line => exact .unknown s line

theorem accounts_dispatch (hindex : s.doc.sheetIndex? s.sheet = some i) (command : Command) :
    Accounts [command.kind s.fillColumns state.active] s (dispatch state s command).2 := by
  obtain ⟨sheet, -, hon⟩ := exists_on hindex
  exact (step_dispatch state s command).accounts hon

/-- Commands are counted and reported as what they count as. -/
theorem accounts_dispatchAll (hindex : s.doc.sheetIndex? s.sheet = some i) (state : ScriptState)
    (commands : List Command) :
    Accounts (kindsMet s.fillColumns state.active commands) s
      (dispatchAll state s commands).2 := by
  induction commands generalizing state s with
  | nil => exact .none s
  | cons command commands ih =>
    have hnext : (dispatch state s command).2.doc.sheetIndex? (dispatch state s command).2.sheet =
        some i := sheetIndex?_dispatch.trans hindex
    have hrest := ih hnext (dispatch state s command).1
    rw [active_dispatch, (SameSetting.dispatch s state command).fillColumns] at hrest
    rw [dispatchAll_cons]
    exact (accounts_dispatch hindex command).trans hrest

end Session

/-! ## Sheets -/

namespace Template

/-- What the lines for a sheet count as. -/
def kinds (template : Template) (lines : List String) : List CommandKind :=
  kindsMet template.fillColumns .idle (lines.map (Command.ofLine template.useTitle))

theorem length_kinds (template : Template) (lines : List String) :
    (template.kinds lines).length = lines.length := by
  rw [kinds, length_kindsMet, List.length_map]

theorem accounts_runSheet (template : Template) {workbook : Workbook} {name : String}
    (hsheet : Document.hasSheet workbook name = true) (lines : List String) :
    Session.Accounts (template.kinds lines)
      (.start workbook name template.fillColumns) (template.runSheet workbook name lines) := by
  obtain ⟨i, hindex⟩ := Workbook.exists_sheetIndex?_of_hasSheet hsheet
  have hsession : (Session.start workbook name template.fillColumns).doc.sheetIndex? name = some i :=
    hindex
  exact Session.accounts_dispatchAll hsession .start _

/-- A section tells of its sheet and then of what was done there. -/
theorem log_runSection {δ : Type} [Document δ] (template : Template) (filled : Filled δ)
    {part : Section} (hsheet : Document.hasSheet filled.doc part.name = true) :
    (template.runSection filled part).log =
      filled.log.push (.fillingSheet part.name) ++
        (template.runSheet filled.doc part.name part.lines).log := by
  rw [runSection, if_pos hsheet]

end Template

/-- Every line that is carried out on a sheet is counted once: as a find, as a write, as not
understood, as a remark or as a continuation that is dropped. The log tells of the sheet and then of
each line that is no remark, by one event. -/
theorem runSheet_accounts (template : Template) {workbook : Workbook} {name : String}
    (hsheet : Document.hasSheet workbook name = true) (lines : List String) :
    let kinds := template.kinds lines
    let stats := (template.runSheet workbook name lines).stats
    stats.findsHit + stats.findsMissed = kinds.count .find ∧
    stats.writes + stats.appends + stats.skippedWrites = kinds.count .write ∧
    stats.unrecognized = kinds.count .unknown ∧
    stats.writes + stats.appends + stats.findsHit + stats.findsMissed + stats.skippedWrites +
      stats.unrecognized + kinds.count .remark + kinds.count .dropped = lines.length ∧
    ∀ filled : Filled Workbook, filled.doc = workbook →
      ∃ events : Log,
        (template.runSection filled ⟨name, lines⟩).log =
          filled.log.push (.fillingSheet name) ++ events ∧
        events.size + kinds.count .remark = lines.length := by
  intro kinds stats
  have hlength : kinds.length = lines.length := template.length_kinds lines
  have haccounts := template.accounts_runSheet hsheet lines
  have hfinds : stats.findsHit + stats.findsMissed = kinds.count .find :=
    haccounts.finds.trans (Nat.zero_add _)
  have hwrites : stats.writes + stats.appends + stats.skippedWrites = kinds.count .write :=
    haccounts.writes.trans (Nat.zero_add _)
  have hunknown : stats.unrecognized = kinds.count .unknown :=
    haccounts.unrecognized.trans (Nat.zero_add _)
  refine ⟨hfinds, hwrites, hunknown, ?_, fun filled hfilled => ?_⟩
  · have hall := CommandKind.length_eq_counts kinds
    omega
  · subst hfilled
    obtain ⟨events, hlog, hsize⟩ := haccounts.log
    have hstart : (Session.start filled.doc name template.fillColumns).log ++ events = events :=
      Array.empty_append
    refine ⟨events, ?_, hsize.trans hlength⟩
    rw [template.log_runSection filled hsheet, hlog, hstart]

/-- A workbook of moorings. -/
def moorings : Workbook :=
  ⟨"Pier", [(Sheet.withHeader "Pier" ["Mooring", "Boat"]).setCell ⟨1, 0⟩ ⟨.text "North", .plain⟩]⟩

/-- Lines of all kinds for the moorings. -/
def mooringLines : List String :=
  ["// spring", "low tide", "cell equals:North", "add-r:Gull", "until noon", "cell starts:South",
    "until dusk", "add-x:Tern", "cellar"]

theorem runSheet_accounts_moorings :
    Document.hasSheet moorings "Pier" = true ∧
      (Template.empty.runSheet moorings "Pier" mooringLines).stats.unrecognized = 2 ∧
      ∃ events : Log, events.size = 8 ∧
        (Template.empty.runSection ⟨moorings, .empty, #[]⟩ ⟨"Pier", mooringLines⟩).log =
          #[Event.fillingSheet "Pier"] ++ events := by
  have hsheet : Document.hasSheet moorings "Pier" = true := by decide
  have hkinds : Template.empty.kinds mooringLines =
      [.remark, .dropped, .find, .write, .write, .find, .write, .unknown, .unknown] := by
    decide +kernel
  obtain ⟨-, -, hunknown, -, hlog⟩ := runSheet_accounts Template.empty hsheet mooringLines
  obtain ⟨events, hevents, hsize⟩ := hlog ⟨moorings, .empty, #[]⟩ rfl
  rw [hkinds] at hunknown hsize
  refine ⟨hsheet, hunknown, events, ?_, hevents⟩
  have hremark : events.size + 1 = 9 := hsize
  omega

end FillScript
