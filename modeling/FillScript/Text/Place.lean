import FillScript.Number.Digits

/-!
# Places in a text

A place in a text is told by its line, the first of which has number 1, and by how many bytes of
that line stand before it.
-/

namespace FillScript.Text

/-- A place in a text. -/
structure Place where
  line : Nat
  column : Nat
deriving DecidableEq, Repr

namespace Place

/-- Where a text begins. -/
def start : Place :=
  ⟨1, 0⟩

/-- The place after one more character. -/
def next (place : Place) (c : Char) : Place :=
  if c = '\n' then ⟨place.line + 1, 0⟩ else ⟨place.line, place.column + c.utf8Size⟩

/-- The place after characters. -/
def after (cs : List Char) : Place :=
  cs.foldl next start

/-- How a place is told. -/
def text (place : Place) : String :=
  "line " ++ Digits.text place.line ++ " column " ++ Digits.text place.column

end Place

end FillScript.Text
