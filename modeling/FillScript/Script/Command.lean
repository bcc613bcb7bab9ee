import FillScript.Text.Blank
import FillScript.Text.Split

/-!
# Commands

What one line of a script asks for. A script addresses cells in one of two modes: by the titles of a
header row, or by finding cells and moving from them. `Command.ofLine` gives every line its command
in either mode.
-/

namespace FillScript

/-- How a cell is found by its text. Both ways tell capitals from small letters. -/
inductive FindMode where
  /-- The whole text is the value. -/
  | equals
  /-- The text starts with the value. -/
  | startsWith
deriving DecidableEq, Repr

/-- Where a move leads. -/
inductive Direction where
  | right
  | left
  | down
  | up
deriving DecidableEq, Repr

namespace FindMode

/-- The words that ask for a find. -/
def keyword : FindMode → String
  | equals => "cell equals"
  | startsWith => "cell starts"

/-- All ways to find a cell. -/
def all : List FindMode :=
  [equals, startsWith]

end FindMode

namespace Direction

/-- The word that asks for a move. -/
def token : Direction → String
  | right => "add-r"
  | left => "add-l"
  | down => "add-b"
  | up => "add-t"

/-- The step of a move: rows down and columns to the right. -/
def delta : Direction → Int × Int
  | right => (0, 1)
  | left => (0, -1)
  | down => (1, 0)
  | up => (-1, 0)

/-- All directions. -/
def all : List Direction :=
  [right, left, down, up]

end Direction

/-- What a line of a script asks for. -/
inductive Command where
  /-- Nothing: the line is a remark. -/
  | comment
  /-- To fill the column with this title, or to find the row where it holds the value. -/
  | titleAssign (title value : String)
  /-- To find a cell. -/
  | rawFind (mode : FindMode) (value : String)
  /-- To move one cell on and fill that one. -/
  | move (direction : Direction) (value : String)
  /-- To add a line to what was filled last. -/
  | continuation (text : String)
  /-- A move that leads nowhere or has no value. -/
  | badMove (line : String)
  /-- A find of no known form. -/
  | unrecognized (line : String)
deriving DecidableEq, Repr

namespace Command

/-- What follows a word and a colon. -/
def after? (word : String) (line : List Char) : Option (List Char) :=
  (word.toList ++ [':']).isPrefixOf? line

/-- Characters as a text, without the blanks around them. -/
def valueOf (cs : List Char) : String :=
  String.ofList (Text.trimmed cs)

/-- The find that a line asks for. -/
def find? (line : List Char) : Option Command :=
  FindMode.all.findSome? fun mode => (after? mode.keyword line).map fun rest =>
    rawFind mode (valueOf rest)

/-- The move that a line asks for. It has to have a value. -/
def move? (line : List Char) : Option Command :=
  Direction.all.findSome? fun direction => (after? direction.token line).bind fun rest =>
    if rest.all Text.isBlank then none else some (move direction (valueOf rest))

/-- The assignment that a line asks for: a title before the first colon, a value after it. -/
def assign? (line : List Char) : Option Command :=
  (Text.splitFirst ':' line).bind fun (title, value) =>
    if title.all Text.isBlank then none else some (titleAssign (valueOf title) (valueOf value))

/-- The command of a line without blanks at its ends, in a script that addresses columns by title.
-/
def ofTitleLine (line : List Char) : Command :=
  if "//".toList.isPrefixOf line then comment
  else (assign? line).getD (continuation (String.ofList line))

/-- The command of a line without blanks at its ends, in a script that finds cells. -/
def ofRawLine (line : List Char) : Command :=
  if "//".toList.isPrefixOf line then comment
  else
    match (find? line).or (move? line) with
    | some command => command
    | none =>
      let text := String.ofList line
      if "add-".toList.isPrefixOf line then badMove text
      else if "cell".toList.isPrefixOf line then unrecognized text
      else continuation text

/-- The command of a line. Blanks at its ends say nothing. -/
def ofLine (useTitle : Bool) (line : String) : Command :=
  let line := Text.trimmed line.toList
  if useTitle then ofTitleLine line else ofRawLine line

/-- Whether a command adds to what was filled last. -/
def isContinuation : Command → Bool
  | continuation _ => true
  | _ => false

end Command

end FillScript
