import FillScript.Text.Alphanumeric
import FillScript.Text.Blank
import FillScript.Text.Split

/-!
# Patterns

A log filter may ask for values that match a pattern. Only spans carry values, and filling has none,
so that one thing counts about a pattern: whether it is one (`Pattern.accepts`). A pattern stands in
a list between braces: it holds no closing brace, comma or equals sign, and whatever needs one of
them, such as a counted repetition, is never complete in it. Patterns are to match by an automaton,
which rules out the word boundaries of Unicode.
-/

namespace FillScript.Pattern

/-! ## Modes -/

/-- How a part of a pattern is meant. -/
structure Mode where
  /-- Whether it is about characters; else it is about bytes, and may match only those of ASCII. -/
  unicode : Bool
  /-- Whether blanks and remarks are passed over. -/
  spaced : Bool

namespace Mode

/-- How a pattern is meant as long as it says nothing about it. -/
def start : Mode :=
  ⟨true, false⟩

/-- The letters of the flags that a pattern can set. -/
def flags : List Char :=
  ['i', 'm', 's', 'U', 'u', 'R', 'x']

/-- The mode with a flag set or not. -/
def withFlag (mode : Mode) (flag : Char) (on : Bool) : Mode :=
  if flag = 'u' then { mode with unicode := on }
  else if flag = 'x' then { mode with spaced := on }
  else mode

end Mode

/-- The text after blanks and remarks, which go from a number sign to the end of the line. -/
def skipSpaced (inRemark : Bool) : List Char → List Char
  | [] => []
  | c :: cs =>
    if inRemark then skipSpaced (c != '\n') cs
    else if Text.isBlank c then skipSpaced false cs
    else if c = '#' then skipSpaced true cs
    else c :: cs

/-- The text from the next character on that counts. -/
def skip (mode : Mode) (cs : List Char) : List Char :=
  if mode.spaced then skipSpaced false cs else cs

/-! ## Atoms -/

/-- What a pattern is made of. -/
inductive Atom where
  /-- A character, perhaps given by the number of a byte. -/
  | literal (c : Char) (byByte : Bool)
  /-- The beginning or the end of the text. -/
  | edge
  /-- The beginning or the end of a word. -/
  | boundary
  /-- The digits, the blanks or the characters of words, or all but those. -/
  | kind (negated : Bool)
  /-- A general category of Unicode. -/
  | category

namespace Atom

/-- Whether an atom can stand for itself. -/
def isItem (mode : Mode) : Atom → Bool
  | literal c byByte => mode.unicode || !byByte || c.toNat < 0x80
  | edge => true
  | boundary => !mode.unicode
  | kind negated => mode.unicode || !negated
  | category => mode.unicode

/-- Whether an atom can be a member of a set. -/
def isMember (mode : Mode) : Atom → Bool
  | literal c _ => mode.unicode || c.toNat < 0x80
  | edge | boundary => false
  | kind negated => mode.unicode || !negated
  | category => mode.unicode

end Atom

/-- The value of a hexadecimal digit. -/
def hexDigit? (c : Char) : Option Nat :=
  if c.isDigit then some (c.toNat - '0'.toNat)
  else if 'a' ≤ c && c ≤ 'f' then some (c.toNat - 'a'.toNat + 10)
  else if 'A' ≤ c && c ≤ 'F' then some (c.toNat - 'A'.toNat + 10)
  else none

/-- Reads `count` more hexadecimal digits of a number that is `value` so far. -/
def readHex (mode : Mode) (value : Nat) : Nat → List Char → Option (Nat × List Char)
  | 0, cs => some (value, cs)
  | _ + 1, [] => none
  | count + 1, c :: cs => do readHex mode (value * 16 + (← hexDigit? c)) count (skip mode cs)

/-- Reads a character given by its number in `count` digits. -/
def readCode (mode : Mode) (count : Nat) (cs : List Char) : Option (Atom × List Char) := do
  let (n, rest) ← readHex mode 0 count (skip mode cs)
  if n.isValidChar then return (.literal (Char.ofNat n) (count == 2), rest) else none

/-- Reads the name of a general category: the first letter of one. -/
def readCategory (mode : Mode) (cs : List Char) : Option (Atom × List Char) :=
  match skip mode cs with
  | [] => none
  | c :: rest =>
    if "CLMNPSZclmnpsz".toList.contains c then some (.category, skip mode rest) else none

/-- The control character that a letter after a backslash stands for. -/
def controlOf? (c : Char) : Option Char :=
  [('a', '\x07'), ('f', '\x0c'), ('t', '\t'), ('n', '\n'), ('r', '\r'), ('v', '\x0b')].lookup c

/-- Reads what follows a backslash. -/
def readEscape (mode : Mode) : List Char → Option (Atom × List Char)
  | [] => none
  | 'x' :: cs => readCode mode 2 cs
  | 'u' :: cs => readCode mode 4 cs
  | 'U' :: cs => readCode mode 8 cs
  | 'b' :: '\x7b' :: _ => none
  | c :: cs =>
    if c = 'p' || c = 'P' then readCategory mode cs
    else if c = 'd' || c = 's' || c = 'w' then some (.kind false, cs)
    else if c = 'D' || c = 'S' || c = 'W' then some (.kind true, cs)
    else if c = 'A' || c = 'z' then some (.edge, cs)
    else if c = 'b' || c = 'B' || c = '<' || c = '>' then some (.boundary, cs)
    else
      match controlOf? c with
      | some control => some (.literal control false, cs)
      | none => if c.toNat < 0x80 && !c.isAlphanum then some (.literal c false, cs) else none

/-- Reads an atom, as a character if nothing else. -/
def readAtom (mode : Mode) : List Char → Option (Atom × List Char)
  | [] => none
  | '\\' :: cs => readEscape mode cs
  | c :: cs => some (.literal c false, cs)

/-! ## Depth -/

/-- How deep a pattern may go. -/
def maxDepth : Nat := 250

/-- The depth of parts that belong together: a part alone is no deeper for that. -/
def joinedDepth : List Nat → Nat
  | [] => 0
  | [depth] => depth
  | depth :: depths => depths.foldl max depth + 1

/-! ## Sets -/

/-- A set that is being read. -/
structure OpenSet where
  /-- The depth of what operators have joined so far. -/
  operand : Option Nat
  /-- The depths of the members after the last operator. -/
  members : List Nat
  /-- Whether there are none yet but dashes. -/
  atStart : Bool

namespace OpenSet

/-- The set with a member added. -/
def add (set : OpenSet) (depth : Nat) : OpenSet :=
  ⟨set.operand, depth :: set.members, false⟩

/-- How deep the set goes. -/
def depth (set : OpenSet) : Nat :=
  match set.operand with
  | some depth => max depth (joinedDepth set.members) + 1
  | none => joinedDepth set.members

/-- The set after an operator. -/
def operate (set : OpenSet) : OpenSet :=
  ⟨some set.depth, [], false⟩

end OpenSet

/-- Reads on from an opening bracket. -/
def openSet? (mode : Mode) (cs : List Char) : Option (OpenSet × List Char) :=
  match skip mode cs with
  | '^' :: rest => if mode.unicode then some (⟨none, [], true⟩, rest) else none
  | rest => some (⟨none, [], true⟩, rest)

/-- The names of classes of ASCII. -/
def classNames : List String :=
  ["alnum", "alpha", "ascii", "blank", "cntrl", "digit", "graph", "lower", "print", "punct",
    "space", "upper", "word", "xdigit"]

/-- Reads on from the bracket before a class of ASCII: whether it is negated, and what follows. -/
def readClass? (cs : List Char) : Option (Bool × List Char) :=
  match cs with
  | ':' :: cs =>
    let (negated, cs) := match cs with
      | '^' :: cs => (true, cs)
      | cs => (false, cs)
    let (name, rest) := cs.span (· != ':')
    match rest with
    | ':' :: ']' :: rest =>
      if classNames.contains (String.ofList name) then some (negated, rest) else none
    | _ => none
  | _ => none

/-- The first character after a dash that counts. A number sign alone is passed over for it. -/
def afterDash? (mode : Mode) (cs : List Char) : Option Char :=
  if mode.spaced then
    match cs.dropWhile Text.isBlank with
    | '#' :: cs => (cs.dropWhile Text.isBlank).head?
    | cs => cs.head?
  else cs.head?

/-- Reads a member of a set, or a range of them: what follows it. -/
def readMember? (mode : Mode) (cs : List Char) : Option (List Char) := do
  let (first, rest) ← readAtom mode cs
  let rest := skip mode rest
  match rest with
  | [] => none
  | '-' :: after =>
    if afterDash? mode after == some ']' || afterDash? mode after == some '-' then
      if first.isMember mode then return rest else none
    else
      let (last, rest) ← readAtom mode (skip mode after)
      match first, last with
      | .literal a _, .literal b _ =>
        if a ≤ b && first.isMember mode && last.isMember mode then return rest else none
      | _, _ => none
  | _ => if first.isMember mode then return rest else none

/-- Reads the rest of a set inside of others: how deep the outermost goes, and what follows it.
Every step reads a character, so that `fuel` need only be more than there are. -/
def readSet (mode : Mode) :
    (fuel : Nat) → OpenSet → List OpenSet → List Char → Option (Nat × List Char)
  | 0, _, _, _ => none
  | fuel + 1, set, outer, cs =>
    match skip mode cs with
    | [] => none
    | '-' :: rest =>
      if set.atStart then readSet mode fuel { set.add 0 with atStart := true } outer rest
      else
        match rest with
        | '-' :: rest => readSet mode fuel set.operate outer rest
        | rest => do readSet mode fuel (set.add 0) outer (← readMember? mode ('-' :: rest))
    | ']' :: rest =>
      if set.atStart && set.members.isEmpty then readSet mode fuel (set.add 0) outer rest
      else
        match outer with
        | [] => some (set.depth + 1, rest)
        | around :: outer => readSet mode fuel (around.add (set.depth + 1)) outer rest
    | '[' :: rest =>
      match readClass? rest with
      | some (negated, rest) =>
        if mode.unicode || !negated then readSet mode fuel (set.add 0) outer rest else none
      | none => do
        let (inner, rest) ← openSet? mode rest
        readSet mode fuel inner (set :: outer) rest
    | '&' :: '&' :: rest | '~' :: '~' :: rest => readSet mode fuel set.operate outer rest
    | cs => do readSet mode fuel (set.add 0) outer (← readMember? mode cs)

/-! ## Groups -/

/-- What has been read of a group. -/
structure Row where
  /-- The depths of the alternatives that have ended. -/
  ended : List Nat
  /-- The depths of the items of the alternative that is being read, last first. -/
  items : List Nat
  /-- Whether the last item can be repeated. -/
  repeatable : Bool

namespace Row

/-- Nothing has been read. -/
def start : Row :=
  ⟨[], [], false⟩

/-- The row with an item added. -/
def add (row : Row) (depth : Nat) : Row :=
  { row with items := depth :: row.items, repeatable := true }

/-- The row with flags added, which cannot be repeated. -/
def addFlags (row : Row) : Row :=
  { row with items := 0 :: row.items, repeatable := false }

/-- The row with its last item repeated. -/
def repeatLast? (row : Row) : Option Row :=
  match row.items with
  | depth :: items =>
    if row.repeatable then some { row with items := (depth + 1) :: items } else none
  | [] => none

/-- The row after a bar. -/
def alternate (row : Row) : Row :=
  ⟨joinedDepth row.items :: row.ended, [], false⟩

/-- How deep the row goes. -/
def depth (row : Row) : Nat :=
  joinedDepth (joinedDepth row.items :: row.ended)

end Row

/-- Whether characters are the name of a group: a letter comes first. -/
def isGroupName : List Char → Bool
  | [] => false
  | c :: cs =>
    (c == '_' || (Text.isAlphanumeric c && !c.isDigit)) &&
      cs.all fun c => ['_', '.', '[', ']'].contains c || Text.isAlphanumeric c

/-- Reads the name of a group that has none of the names `taken`. -/
def readGroupName? (taken : List (List Char)) (cs : List Char) :
    Option (List Char × List Char) :=
  let (name, rest) := cs.span (· != '>')
  match rest with
  | '>' :: rest => if isGroupName name && !taken.contains name then some (name, rest) else none
  | _ => none

/-- What flags announce. -/
structure Flags where
  /-- The mode that they set. -/
  mode : Mode
  /-- Whether they are for a group that begins here, or for the rest of this one. -/
  beginGroup : Bool

/-- Reads flags; `seen` are those before, last first, with the dash that turns all after it off. -/
def readFlags? (mode : Mode) (seen : List Char) : List Char → Option (Flags × List Char)
  | [] => none
  | c :: cs =>
    if c = ':' then if seen.head? == some '-' then none else some (⟨mode, true⟩, cs)
    else if c = ')' then
      if seen.isEmpty || seen.head? == some '-' then none else some (⟨mode, false⟩, cs)
    else if seen.contains c then none
    else if c = '-' then readFlags? mode (c :: seen) cs
    else if Mode.flags.contains c then
      readFlags? (mode.withFlag c !(seen.contains '-')) (c :: seen) cs
    else none

/-! ## Patterns -/

/-- How far a pattern has been read. -/
structure State where
  mode : Mode
  row : Row
  /-- The groups around this one, innermost first, each with its mode. -/
  around : List (Mode × Row)
  /-- The names of groups. -/
  names : List (List Char)

namespace State

/-- Nothing has been read. -/
def start : State :=
  ⟨.start, .start, [], []⟩

/-- The state with an item added. -/
def add (state : State) (depth : Nat) : State :=
  { state with row := state.row.add depth }

/-- The state inside a group that begins here. -/
def enter (state : State) (mode : Mode) : State :=
  { state with mode, row := .start, around := (state.mode, state.row) :: state.around }

/-- The state after the group that ends here. -/
def leave? (state : State) : Option State :=
  match state.around with
  | [] => none
  | (mode, row) :: around =>
    some { state with mode, row := row.add (state.row.depth + 1), around }

end State

/-- Reads on from an opening parenthesis. -/
def readGroup (state : State) (cs : List Char) : Option (State × List Char) :=
  match skip state.mode cs with
  | '?' :: 'P' :: '<' :: rest | '?' :: '<' :: rest => do
    let (name, rest) ← readGroupName? state.names rest
    return ({ state.enter state.mode with names := name :: state.names }, rest)
  | '?' :: rest => do
    let (flags, rest) ← readFlags? state.mode [] rest
    if flags.beginGroup then return (state.enter flags.mode, rest)
    else return ({ state with mode := flags.mode, row := state.row.addFlags }, rest)
  | rest => some (state.enter state.mode, rest)

/-- Reads on at a character that counts. -/
def step (state : State) (c : Char) (cs : List Char) : Option (State × List Char) :=
  match c with
  | '(' => readGroup state cs
  | ')' => do return (← state.leave?, cs)
  | '|' => some ({ state with row := state.row.alternate }, cs)
  | '[' => do
    let (set, rest) ← openSet? state.mode cs
    let (depth, rest) ← readSet state.mode (rest.length + 1) set [] rest
    return (state.add depth, rest)
  | '?' | '*' | '+' => do
    let row ← state.row.repeatLast?
    match cs with
    | '?' :: rest => return ({ state with row }, rest)
    | rest => return ({ state with row }, rest)
  | '\x7b' => none
  | '.' => if state.mode.unicode then some (state.add 0, cs) else none
  | '^' | '$' => some (state.add 0, cs)
  | c => do
    let (atom, rest) ← readAtom state.mode (c :: cs)
    if atom.isItem state.mode then return (state.add 0, rest) else none

/-- Reads a pattern to its end: how deep it goes. Every step reads a character, so that `fuel` need
only be more than there are. -/
def readOn : (fuel : Nat) → State → List Char → Option Nat
  | 0, _, _ => none
  | fuel + 1, state, cs =>
    match skip state.mode cs with
    | [] => if state.around.isEmpty then some state.row.depth else none
    | c :: rest => do
      let (state, rest) ← step state c rest
      readOn fuel state rest

/-- Whether a text is a pattern. -/
def accepts (cs : List Char) : Bool :=
  match readOn (cs.length + 1) .start cs with
  | some depth => depth ≤ maxDepth
  | none => false

/-! ## Values -/

/-- Whether digits, perhaps with a point among them and an exponent, are a number. -/
def isDecimal (cs : List Char) : Bool :=
  let (whole, rest) := cs.span Char.isDigit
  let (fraction, rest) := match rest with
    | '.' :: rest => rest.span Char.isDigit
    | rest => ([], rest)
  !(whole.isEmpty && fraction.isEmpty) &&
    match rest with
    | [] => true
    | c :: rest =>
      let digits := match rest with
        | '+' :: rest | '-' :: rest => rest
        | rest => rest
      (c == 'e' || c == 'E') && !digits.isEmpty && digits.all Char.isDigit

/-- Whether a text is a value that can be asked for: a pattern, or a number with a plus sign, which
is no pattern. All other numbers and truth values are patterns. -/
def isValue (cs : List Char) : Bool :=
  accepts cs ||
    match cs with
    | '+' :: cs =>
      isDecimal cs ||
        ["inf", "infinity", "nan"].contains (String.ofList (cs.map Char.toLower))
    | _ => false

/-- Whether a text is what a directive can ask for: a name, and perhaps the value after an equals
sign. A further one, and what follows it, says nothing. -/
def isField (cs : List Char) : Bool :=
  match Text.splitAll '=' cs with
  | _ :: value :: _ => isValue value
  | _ => true

end FillScript.Pattern
