/-!
# Binary floating-point numbers

The finite numbers of the format binary64 as exact dyadic fractions. `Magnitude.ofRatio?` rounds a
fraction to the nearest of them, a tie to the even one, and has no result where the fraction is too
large; multiplication and division are the exact operation followed by one such rounding.
-/

namespace FillScript

-- A power of numbers is the one of `Nat`, also where powers in monoids are known.
@[default_instance 20000]
scoped instance (priority := 2000) powNat : Pow Nat Nat := instPowNat

/-- The stored form of `mantissa · 2^exponent`: 53 bits, the highest set unless the exponent is the
least one. -/
abbrev IsStored (mantissa : Nat) (exponent : Int) : Prop :=
  mantissa < 2 ^ 53 ∧ -1074 ≤ exponent ∧ exponent ≤ 971 ∧
    (2 ^ 52 ≤ mantissa ∨ exponent = -1074)

/-- A finite binary64 number without its sign: `mantissa · 2^exponent`. -/
structure Magnitude where
  mantissa : Nat
  exponent : Int
  stored : IsStored mantissa exponent
deriving DecidableEq

/-- A finite binary64 number; zero has two signs. -/
structure Binary64 where
  negative : Bool
  magnitude : Magnitude
deriving DecidableEq

/-- The natural number nearest to `num / den`; a tie goes to the even neighbour. -/
def roundHalfEven (num den : Nat) : Nat :=
  let floor := num / den
  let twice := 2 * (num % den)
  if twice < den then floor
  else if den < twice then floor + 1
  else if floor % 2 = 0 then floor else floor + 1

namespace Magnitude

/-- Zero. -/
def zero : Magnitude :=
  ⟨0, -1074, by decide⟩

instance : Inhabited Magnitude := ⟨zero⟩

/-- `mantissa · 2^exponent`, if that is a stored form. -/
def mk? (mantissa : Nat) (exponent : Int) : Option Magnitude :=
  if h : IsStored mantissa exponent then some ⟨mantissa, exponent, h⟩ else none

/-- The numerator of the value. -/
def num (x : Magnitude) : Nat :=
  x.mantissa * 2 ^ x.exponent.toNat

/-- The denominator of the value. -/
def den (x : Magnitude) : Nat :=
  2 ^ (-x.exponent).toNat

/-- Whether the value is a whole number. -/
def isWhole (x : Magnitude) : Bool :=
  x.num % x.den == 0

/-- The exponent of the last bit that is kept of `num / den`, one less than it is for some. -/
def exponentBelow (num den : Nat) : Int :=
  max ((num.log2 : Int) - den.log2 - 53) (-1074)

/-- The fraction `num / den` divided by `2^e`, as a fraction. -/
def scaled (num den : Nat) (e : Int) : Nat × Nat :=
  (num * 2 ^ (-e).toNat, den * 2 ^ e.toNat)

/-- The binary64 number nearest to `num / den`; a tie goes to the even mantissa. There is none where
the fraction rounds to more than the largest number. -/
def ofRatio? (num den : Nat) : Option Magnitude :=
  if num = 0 then some zero else
    let below := exponentBelow num den
    let (n, d) := scaled num den below
    let e := if n / d < 2 ^ 53 then below else below + 1
    let (n, d) := scaled num den e
    let m := roundHalfEven n d
    if m = 2 ^ 53 then mk? (2 ^ 52) (e + 1) else mk? m e

/-- The product, rounded. -/
def mul? (x y : Magnitude) : Option Magnitude :=
  ofRatio? (x.num * y.num) (x.den * y.den)

/-- The quotient by a number other than zero, rounded. -/
def div? (x y : Magnitude) : Option Magnitude :=
  ofRatio? (x.num * y.den) (x.den * y.num)

end Magnitude

end FillScript
