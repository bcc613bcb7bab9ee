import FillScript.Number.Digits

/-!
# Decimal numerals

A numeral is a number as it is written: a sign, digits before and after the point, and perhaps an
exponent. Two numerals of one value, such as `1e2` and `100`, are two numerals.
-/

namespace FillScript

/-- A written number: `whole.fraction · 10^exponent`. -/
structure Numeral where
  negative : Bool
  whole : List Digit
  fraction : List Digit
  exponent : Option Int
deriving DecidableEq

namespace Numeral

/-- The numeral of an integer. -/
def ofInt (n : Int) : Numeral :=
  ⟨n < 0, Digits.ofNat n.natAbs, [], none⟩

/-- The integer that a numeral without fraction and exponent writes. -/
def toInt? (n : Numeral) : Option Int :=
  if n.fraction.isEmpty && n.exponent.isNone then
    some (if n.negative then -Digits.value n.whole else Digits.value n.whole)
  else none

/-- An exponent as it is written: always with its sign, without leading zeros. -/
def exponentText (e : Int) : List Char :=
  'e' :: (if e < 0 then '-' else '+') :: Digits.toChars (Digits.ofNat e.natAbs)

/-- The characters of a numeral. A point stands only before a fraction. -/
def chars (n : Numeral) : List Char :=
  (if n.negative then ['-'] else []) ++ Digits.toChars n.whole ++
    (if n.fraction.isEmpty then [] else '.' :: Digits.toChars n.fraction) ++
    (match n.exponent with
      | some e => exponentText e
      | none => [])

/-- A numeral as text. -/
def text (n : Numeral) : String :=
  String.ofList n.chars

end Numeral

end FillScript
