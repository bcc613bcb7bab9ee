import FillScript.Number.Numeral
import FillScript.Number.Binary64

/-!
# The number a numeral is read as

A numeral is read in two roundings, not one: its leading digits, as many as stay below `2^64`, make
a coefficient that is rounded to binary64, and the power of ten that remains is applied to it by one
multiplication or division. For at most fifteen digits and a power of at most 22 both steps are
exact but the last, and the result is the nearest number; beyond that it may be a neighbour of it.
-/

namespace FillScript

namespace Magnitude

/-- The binary64 number nearest to `10^k`. -/
def tenPower? (k : Nat) : Option Magnitude :=
  ofRatio? (10 ^ k) 1

/-- `x · 10^k`, through the power of ten that binary64 has. Zero stays zero; other numbers have no
product with a power beyond `10^308`. -/
def scaleUp? (x : Magnitude) (k : Nat) : Option Magnitude :=
  if k ≤ 308 then (tenPower? k).bind x.mul?
  else if x.mantissa = 0 then some x
  else none

/-- `x / 10^k`, in steps of at most `10^308` until nothing is left of `x`. -/
def scaleDown? (x : Magnitude) (k : Nat) : Option Magnitude :=
  if k ≤ 308 then (tenPower? k).bind x.div?
  else if x.mantissa = 0 then some x
  else ((tenPower? 308).bind x.div?).bind fun y => scaleDown? y (k - 308)
termination_by k

/-- `x · 10^e`. -/
def scale? (x : Magnitude) (e : Int) : Option Magnitude :=
  if 0 ≤ e then x.scaleUp? e.toNat else x.scaleDown? (-e).toNat

end Magnitude

namespace Numeral

/-- Appends digits to a coefficient as long as it stays below `2^64`, and returns it with the digits
from the first that does not fit on. -/
def absorb (coefficient : Nat) : List Digit → Nat × List Digit
  | [] => (coefficient, [])
  | d :: ds =>
    if 10 * coefficient + d.val < 2 ^ 64 then absorb (10 * coefficient + d.val) ds
    else (coefficient, d :: ds)

/-- The finite binary64 number that a numeral is read as, if it is not too large for one. -/
def toBinary64? (n : Numeral) : Option Binary64 :=
  let (whole, wholeRest) := absorb 0 n.whole
  let (coefficient, fractionRest) := absorb whole n.fraction
  let shift : Int := wholeRest.length - (n.fraction.length - fractionRest.length : Nat)
  ((Magnitude.ofRatio? coefficient 1).bind (·.scale? (n.exponent.getD 0 + shift))).map
    fun magnitude => ⟨n.negative, magnitude⟩

end Numeral

end FillScript
