/-!
# Text on a terminal

A text that comes from outside must not control the terminal that it is shown on. In logs the
characters that could are spelled out (`spelledOut`); in messages about arguments they are left out,
together with the control sequences that they begin (`plain`).
-/

namespace FillScript.Text

/-! ## Spelling out -/

/-- A character as it stands in a log. -/
def spelledOutChar (c : Char) : List Char :=
  match c with
  | '\x1b' => "\\x1b".toList
  | '\x07' => "\\x07".toList
  | '\x08' => "\\x08".toList
  | '\x0c' => "\\x0c".toList
  | '\x7f' => "\\x7f".toList
  | c =>
    if 0x80 ≤ c.toNat && c.toNat ≤ 0x9f then
      "\\u".toList ++ '\x7b' :: Nat.toDigits 16 c.toNat ++ ['\x7d']
    else [c]

/-- A text as it stands in a log. -/
def spelledOut (s : String) : String :=
  String.ofList (s.toList.flatMap spelledOutChar)

/-! ## Leaving out -/

/-- Where a character stands with regard to control sequences. -/
inductive ControlState where
  /-- In no sequence. -/
  | outside
  /-- After an escape character. -/
  | escape
  /-- After an escape character and further ones that announce the last. -/
  | announced
  /-- In a sequence that a letter ends. -/
  | command
  /-- In a title or the like, which a bell ends. -/
  | title
  /-- At the beginning of a command with a text. -/
  | opened
  /-- Among the parameters of a command with a text. -/
  | numbered
  /-- After the parameters of a command with a text, before its name. -/
  | marked
  /-- In a text for the terminal itself. -/
  | message
deriving DecidableEq

namespace ControlState

/-- The state that a character after an escape character leads to. -/
def afterEscape (c : Char) : ControlState :=
  if c = '[' then command
  else if c = ']' then title
  else if c = 'P' then opened
  else if c = 'X' || c = '^' || c = '_' then message
  else if ' ' ≤ c && c ≤ '/' then announced
  else if '0' ≤ c && c ≤ '~' then outside
  else escape

/-- Whether a character ends a text for the terminal: one of its bytes is the string terminator. -/
def endsMessage (c : Char) : Bool :=
  (String.singleton c).toUTF8.toList.contains 0x9c

/-- Where a character of a command with a text leads before the text; `known` tells whether its
parameters have begun. -/
def afterParameter (known : Bool) (c : Char) : Option ControlState :=
  if ' ' ≤ c && c ≤ '/' then some marked
  else if '0' ≤ c && c ≤ '9' || c = ';' then some numbered
  else if '<' ≤ c && c ≤ '?' then some (if known then message else numbered)
  else if ':' ≤ c && c ≤ '~' then some message
  else none

/-- Where the character after `c` stands. -/
def next (state : ControlState) (c : Char) : ControlState :=
  if c = '\x1b' then escape
  else if c = '\x18' || c = '\x1a' then outside
  else
    match state with
    | outside => outside
    | escape => afterEscape c
    | announced => if '0' ≤ c && c ≤ '~' then outside else announced
    | command => if '@' ≤ c && c ≤ '~' then outside else command
    | title => if c = '\x07' then outside else title
    | opened => (afterParameter false c).getD opened
    | numbered => (afterParameter true c).getD numbered
    | marked => if '0' ≤ c && c ≤ '~' then message else marked
    | message => if endsMessage c then outside else message

/-- Whether a blank is shown: also where it interrupts a sequence. -/
def showsBlank : ControlState → Bool
  | title | opened | numbered | marked | message => false
  | _ => true

/-- Whether a character is shown in a state. -/
def shows (state : ControlState) (c : Char) : Bool :=
  if c = '\t' || c = '\n' || c = '\x0c' || c = '\r' then state.showsBlank
  else state = outside && ' ' ≤ c && c ≠ '\x7f'

end ControlState

/-- The characters that are shown. One that is shown ends every sequence. -/
def plainFrom (state : ControlState) : List Char → List Char
  | [] => []
  | c :: cs =>
    if state.shows c then c :: plainFrom .outside cs else plainFrom (state.next c) cs

/-- A text without control characters and sequences. -/
def plain (s : String) : String :=
  String.ofList (plainFrom .outside s.toList)

end FillScript.Text
