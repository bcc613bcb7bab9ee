import FillScript.Number.Numeral
import FillScript.Number.Shortest

/-!
# How a number is written

Two ways to write a binary64 number, both with the fewest digits that read back. A document stores
it with a fraction always and an exponent where the number is very large or very small; a reader of
the sheet sees no exponent, and a fraction only where there is one.
-/

namespace FillScript

namespace Decimal

/-- The digits of the coefficient. -/
def digits (d : Decimal) : List Digit :=
  Digits.ofNat d.coefficient

/-- The power of ten of the first digit. -/
def leadingPower (d : Decimal) : Int :=
  d.exponent + d.digits.length - 1

/-- The digits before the point in positional notation. -/
def wholePart (d : Decimal) : List Digit :=
  if d.leadingPower < 0 then [Digit.zero]
  else d.digits.take (d.leadingPower.toNat + 1) ++ List.replicate d.exponent.toNat Digit.zero

/-- The digits after the point in positional notation. -/
def fractionPart (d : Decimal) : List Digit :=
  if d.leadingPower < 0 then List.replicate (-d.leadingPower - 1).toNat Digit.zero ++ d.digits
  else d.digits.drop (d.leadingPower.toNat + 1)

/-- Positional notation, with the digits `whenWhole` after the point of a whole number. -/
def positional (negative : Bool) (whenWhole : List Digit) (d : Decimal) : Numeral :=
  ⟨negative, d.wholePart, if d.fractionPart.isEmpty then whenWhole else d.fractionPart, none⟩

/-- Scientific notation: one digit before the point. -/
def scientific (negative : Bool) (d : Decimal) : Numeral :=
  ⟨negative, d.digits.take 1, d.digits.drop 1, some d.leadingPower⟩

end Decimal

namespace Binary64

/-- A number as documents store it: the sign of zero is kept, whole numbers have the fraction `.0`,
and an exponent is written from `10^16` on and below `10^-5`. -/
def stored (x : Binary64) : Numeral :=
  let d := x.magnitude.shortest .even
  if -5 ≤ d.leadingPower && d.leadingPower < 16 then d.positional x.negative [Digit.zero]
  else d.scientific x.negative

/-- Whether a number is shown as an integer: whole and below `10^15`. -/
def isShownWhole (x : Binary64) : Bool :=
  x.magnitude.isWhole && x.magnitude.num < 10 ^ 15 * x.magnitude.den

/-- A number in positional notation, as short as can be; zero keeps its sign. -/
def plain (x : Binary64) : Numeral :=
  (x.magnitude.shortest .up).positional x.negative []

/-- A number as a reader of the sheet sees it: whole numbers below `10^15` as integers, without a
sign for zero. -/
def shown (x : Binary64) : Numeral :=
  if x.isShownWhole then
    let n := x.magnitude.num / x.magnitude.den
    ⟨x.negative && n != 0, Digits.ofNat n, [], none⟩
  else x.plain

end Binary64

end FillScript
