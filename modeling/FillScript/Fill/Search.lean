import FillScript.Document.Basic
import FillScript.Script.Command
import FillScript.Text.LetterCase

/-!
# Finding cells

A matcher says which texts are found. A search goes down one column below the header, or through the
rows of a sheet, each as far as it is used now.
-/

namespace FillScript

/-- Which texts are found. -/
inductive Matcher where
  /-- The text itself. -/
  | exact (needle : String)
  /-- Texts that start with it. -/
  | starting (needle : String)
  /-- Texts that differ from it only in letter case and in blanks at the ends. -/
  | loose (needle : String)
deriving DecidableEq

namespace Matcher

/-- Blanks at the ends and letter case taken away. -/
def folded (s : String) : String :=
  Text.lower (Text.trim s)

/-- Whether a text is found. -/
def matches? (matcher : Matcher) (text : String) : Bool :=
  match matcher with
  | exact needle => text == needle
  | starting needle => needle.toList.isPrefixOf text.toList
  | loose needle => folded text == folded needle

/-- The matcher of a find command. -/
def ofMode (mode : FindMode) (needle : String) : Matcher :=
  match mode with
  | .equals => exact needle
  | .startsWith => starting needle

end Matcher

/-- The first of `count` numbers from `start` on that satisfies `p`. -/
def firstFrom (p : Nat → Bool) (start : Nat) : Nat → Option Nat
  | 0 => none
  | count + 1 => if p start then some start else firstFrom p (start + 1) count

namespace Document

variable {δ : Type} [Document δ]

/-- The first cell of a column below the header, up to `lastRow`, whose text is found. -/
def findInColumn (doc : δ) (sheet : String) (col : UInt32) (lastRow : Option UInt32)
    (matcher : Matcher) : Option Coord :=
  lastRow.bind fun lastRow =>
    (firstFrom (fun row => matcher.matches? (text doc sheet ⟨UInt32.ofNat row, col⟩)) 1
      lastRow.toNat).map fun row => ⟨UInt32.ofNat row, col⟩

/-- The first cell of a row, up to its last column with a text, whose text is found. -/
def findInRow (doc : δ) (sheet : String) (matcher : Matcher) (row : UInt32) : Option Coord :=
  (lastUsedCol doc sheet row).bind fun lastCol =>
    (firstFrom (fun col => matcher.matches? (text doc sheet ⟨row, UInt32.ofNat col⟩)) 0
      (lastCol.toNat + 1)).map fun col => ⟨row, UInt32.ofNat col⟩

/-- The first cell that `findInRow` finds in `count` rows from `start` on. -/
def findInRows (doc : δ) (sheet : String) (matcher : Matcher) (start : Nat) : Nat → Option Coord
  | 0 => none
  | count + 1 =>
    match findInRow doc sheet matcher (UInt32.ofNat start) with
    | some pos => some pos
    | none => findInRows doc sheet matcher (start + 1) count

/-- The first cell of a sheet, row by row up to `lastRow`, whose text is found. -/
def findInSheet (doc : δ) (sheet : String) (lastRow : Option UInt32) (matcher : Matcher) :
    Option Coord :=
  lastRow.bind fun lastRow => findInRows doc sheet matcher 0 (lastRow.toNat + 1)

end Document

end FillScript
