import FillScript.Number.Numeral

/-!
# JSON values

A value as it stands in a text: entries of an object keep their order and may repeat a key, and a
number keeps the digits it was written with. Two further constructors stand for what a text can hold
in the place of a value: a string literal that spells no text, and the place where the text stops
being JSON. With them every text has a value, and whoever decodes it meets its faults in the order
in which they stand in the text.
-/

namespace FillScript

/-- A JSON value as read from a text. A key that is `none` is a literal that spells no text. -/
inductive Json where
  | null
  | bool (value : Bool)
  | number (numeral : Numeral)
  | string (text : String)
  | array (items : List Json)
  | object (entries : List (Option String × Json))
  /-- A string literal in which half a surrogate pair stands alone. -/
  | notText
  /-- The text stops being JSON here. -/
  | cut
deriving Inhabited

namespace Json

/-- An object with keys that are text. -/
def ofEntries (entries : List (String × Json)) : Json :=
  .object (entries.map fun (key, value) => (some key, value))

/-- The integer `n`. -/
def ofInt (n : Int) : Json :=
  .number (.ofInt n)

mutual

/-- Whether a value goes on to its end: nothing in it is cut off. -/
def isWhole : Json → Bool
  | array items => areWhole items
  | object entries => entriesAreWhole entries
  | cut => false
  | _ => true

/-- Whether each of the values goes on to its end. -/
def areWhole : List Json → Bool
  | [] => true
  | item :: items => isWhole item && areWhole items

/-- Whether the value of each entry goes on to its end. -/
def entriesAreWhole : List (Option String × Json) → Bool
  | [] => true
  | (_, value) :: entries => isWhole value && entriesAreWhole entries

end

end Json

end FillScript
