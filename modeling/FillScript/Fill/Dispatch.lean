import FillScript.Fill.Session

/-!
# Carrying out commands

Between two lines a script has a cursor and perhaps an active command, to which continuation lines
add. A find moves the cursor and leaves the active command; a fill or a move becomes active.
-/

namespace FillScript

/-- The command that continuation lines add to. -/
inductive ActiveCommand where
  | idle
  /-- The last fill, by its title. -/
  | fill (title : String)
  /-- The last move. -/
  | move (direction : Direction)
deriving DecidableEq, Repr

namespace ActiveCommand

/-- Whether there is no active command. -/
def isIdle : ActiveCommand → Bool
  | idle => true
  | _ => false

/-- The title or the word of the active command. -/
def name? : ActiveCommand → Option String
  | idle => none
  | fill title => some title
  | move direction => some direction.token

end ActiveCommand

/-- What is known of a script between two lines. -/
structure ScriptState where
  cursor : Cursor
  active : ActiveCommand
deriving DecidableEq, Repr

namespace ScriptState

/-- A script that has found nothing and has no active command. -/
def start : ScriptState :=
  ⟨.lost, .idle⟩

end ScriptState

variable {δ : Type} [Document δ]

/-- Carries out one command. -/
def dispatch (state : ScriptState) (s : Session δ) : Command → ScriptState × Session δ
  | .comment => (state, s)
  | .titleAssign title value =>
    let col := s.columnOf title
    if s.isFillable title then
      ({ state with active := .fill title }, s.write (state.cursor.withCol col) value)
    else
      let (cursor, s) := s.findInColumn col value
      ({ state with cursor }, s)
  | .rawFind mode value =>
    let (cursor, s) := s.find mode value
    ({ state with cursor }, s)
  | .move direction value =>
    let cursor := state.cursor.step direction
    (⟨cursor, .move direction⟩, s.write cursor value)
  | .continuation text =>
    match state.active with
    | .fill title => (state, s.append (state.cursor.withCol (s.columnOf title)) text)
    | .move _ => (state, s.append state.cursor text)
    | .idle => (state, s.report (.dropped text s.sheet))
  | .badMove line => ({ state with active := .idle }, s.noteUnrecognized line)
  | .unrecognized line => (state, s.noteUnrecognized line)

/-- Carries out commands in order. -/
def dispatchAll (state : ScriptState) (s : Session δ) (commands : List Command) :
    ScriptState × Session δ :=
  commands.foldl (fun (state, s) command => dispatch state s command) (state, s)

end FillScript
