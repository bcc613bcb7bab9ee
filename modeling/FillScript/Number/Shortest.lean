import FillScript.Number.Binary64
import FillScript.Number.Digits

/-!
# The fewest digits that read back

Of the decimal numbers that round to a given binary64 number, the one with the fewest digits, and of
these the nearest. Decimal grids are tried from coarse to fine: the first grid with a point that
rounds to the number holds it, because a point with fewer digits would lie on a coarser grid. The
points to try on a grid are the two neighbours of the number.
-/

namespace FillScript

/-- `coefficient · 10^exponent`. -/
structure Decimal where
  coefficient : Nat
  exponent : Int
deriving DecidableEq, Inhabited

namespace Decimal

/-- The binary64 number nearest to a decimal one. -/
def nearest? (d : Decimal) : Option Magnitude :=
  Magnitude.ofRatio? (d.coefficient * 10 ^ d.exponent.toNat) (10 ^ (-d.exponent).toNat)

end Decimal

/-- Which of two grid points is taken when they are equally near. -/
inductive TieRule where
  /-- The one whose last digit is even. -/
  | even
  /-- The larger one. -/
  | up
deriving DecidableEq

namespace Magnitude

/-- The neighbours of a number on the grid of multiples of `10^e`, the nearer one first; one point
if the number lies on the grid. -/
def neighbours (tie : TieRule) (x : Magnitude) (e : Int) : List Decimal :=
  let num := x.num * 10 ^ (-e).toNat
  let den := x.den * 10 ^ e.toNat
  let floor := num / den
  let rest := num % den
  if rest = 0 then [⟨floor, e⟩]
  else if 2 * rest < den || (2 * rest == den && tie == .even && floor % 2 == 0) then
    [⟨floor, e⟩, ⟨floor + 1, e⟩]
  else [⟨floor + 1, e⟩, ⟨floor, e⟩]

/-- The first neighbour of a number that rounds to it, on the grids `10^e`, `10^(e-1)`, … of which
`steps` more follow the first. -/
def firstOnGrids (tie : TieRule) (x : Magnitude) : Nat → Int → Option Decimal
  | steps, e =>
    match (x.neighbours tie e).find? (fun d => d.nearest? == some x) with
    | some d => some d
    | none =>
      match steps with
      | 0 => none
      | steps + 1 => firstOnGrids tie x steps (e - 1)

/-- The decimal number with the fewest digits that rounds to `x`, the nearest of those. The last
grid tried, `10^-1074`, holds every binary64 number. -/
def shortest (tie : TieRule) (x : Magnitude) : Decimal :=
  if x.mantissa = 0 then ⟨0, 0⟩ else
    let coarsest := (Digits.ofNat (x.num / x.den)).length
    (firstOnGrids tie x (coarsest + 1074) coarsest).getD ⟨0, 0⟩

end Magnitude

end FillScript
