import FillScript.Json.Value
import FillScript.Json.Literal

/-!
# Writing JSON text

Two layouts: `compact` on one line without spaces, and `pretty` with every item and entry on a line
of its own, indented by two spaces a level. Both keep the order of entries. What a text holds in the
place of a value (`notText`, `cut`) is written as `null`, and a key that is no text as an empty one:
a value made from data holds none of these.
-/

namespace FillScript.Json

/-- The key of an entry as a literal. -/
def keyChars (key : Option String) : List Char :=
  Literal.write (key.getD "")

/-- The text of a value that is neither an array nor an object. -/
def scalarChars : Json → List Char
  | bool true => ['t', 'r', 'u', 'e']
  | bool false => ['f', 'a', 'l', 's', 'e']
  | number numeral => numeral.chars
  | string text => Literal.write text
  | _ => ['n', 'u', 'l', 'l']

mutual

/-- The compact text of a value. -/
def compactChars : Json → List Char
  | array items => '[' :: itemsChars items ++ [']']
  | object entries => '{' :: entriesChars entries ++ ['}']
  | value => scalarChars value

/-- Items with commas between them. -/
def itemsChars : List Json → List Char
  | [] => []
  | [item] => compactChars item
  | item :: items => compactChars item ++ ',' :: itemsChars items

/-- Entries with commas between them. -/
def entriesChars : List (Option String × Json) → List Char
  | [] => []
  | [(key, value)] => keyChars key ++ ':' :: compactChars value
  | (key, value) :: entries =>
    keyChars key ++ ':' :: compactChars value ++ ',' :: entriesChars entries

end

/-- A line feed and the indentation of a level. -/
def newLine (level : Nat) : List Char :=
  '\n' :: List.replicate (2 * level) ' '

mutual

/-- The indented text of a value whose first line stands at `level`. -/
def prettyChars (level : Nat) : Json → List Char
  | array [] => ['[', ']']
  | array items => '[' :: prettyItems (level + 1) items ++ newLine level ++ [']']
  | object [] => ['{', '}']
  | object entries => '{' :: prettyEntries (level + 1) entries ++ newLine level ++ ['}']
  | value => scalarChars value

/-- Items on lines of their own, with commas between them. -/
def prettyItems (level : Nat) : List Json → List Char
  | [] => []
  | [item] => newLine level ++ prettyChars level item
  | item :: items => newLine level ++ prettyChars level item ++ ',' :: prettyItems level items

/-- Entries on lines of their own, with commas between them. -/
def prettyEntries (level : Nat) : List (Option String × Json) → List Char
  | [] => []
  | [(key, value)] => newLine level ++ keyChars key ++ ':' :: ' ' :: prettyChars level value
  | (key, value) :: entries =>
    newLine level ++ keyChars key ++ ':' :: ' ' :: prettyChars level value ++
      ',' :: prettyEntries level entries

end

/-- A value on one line, without spaces between the tokens. -/
def compact (value : Json) : String :=
  String.ofList (compactChars value)

/-- A value on indented lines, without a line feed at the end. -/
def pretty (value : Json) : String :=
  String.ofList (prettyChars 0 value)

end FillScript.Json
