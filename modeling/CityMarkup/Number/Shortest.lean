import CityMarkup.Number.Format

/-!
# The fewest digits that read back

A decimal number reads back as a binary number when it lies between the two
midpoints around it; a midpoint itself reads back as the neighbour with the
even magnitude.  The shortest decimal of a magnitude lies on the coarsest
decimal grid that has such a point, and is the point nearest to the number.
Of two points equally near the larger is taken.
-/

namespace CityMarkup

/-- The decimal number `coefficient * 10 ^ exponent`. -/
structure Decimal where
  coefficient : Nat
  exponent : Int
deriving DecidableEq, Repr

namespace BinaryFormat

/-- Whether a point lies between two midpoints, both included or both left
out. -/
def between (closed : Bool) (lower upper point : Nat) : Bool :=
  if closed then
    decide (lower ≤ point ∧ point ≤ upper)
  else
    decide (lower < point ∧ point < upper)

/-- The point of the grid of multiples of `10 ^ exponent` that reads back as
the magnitude `b` and is nearest to it.  Everything is counted in halves of
the smallest unit, stretched by a power of ten when the grid is finer than
one. -/
def gridPoint? (f : BinaryFormat) (b : Nat) (exponent : Int) : Option Nat :=
  let stretch := Nat.pow 10 (-exponent).toNat
  let step := Nat.pow 10 exponent.toNat * Nat.pow 2 (f.scale + 1)
  let lower := f.lowerMidpoint b * stretch
  let upper := f.upperMidpoint b * stretch
  let below := 2 * f.units b * stretch / step
  let rest := 2 * f.units b * stretch % step
  let readsBack := fun point =>
    between (b % 2 == 0) lower upper (point * step)
  if readsBack below && (!readsBack (below + 1) || decide (2 * rest < step)) then
    some below
  else if readsBack (below + 1) then
    some (below + 1)
  else
    none

/-- An exponent whose power of ten exceeds the number of a magnitude, by less
than a factor of ten when the number is not zero. -/
def decimalExponent (f : BinaryFormat) (b : Nat) : Int :=
  let one := Nat.pow 2 f.scale
  let n := f.units b
  if one ≤ n then
    (Nat.toDigits 10 (n / one)).length
  else
    1 - ((Nat.toDigits 10 ((one - 1) / n)).length : Int)

/-- The number of a magnitude written out in full. -/
def exactDecimal (f : BinaryFormat) (b : Nat) : Decimal :=
  ⟨f.units b * Nat.pow 5 f.scale, -f.scale⟩

/-- The decimal of fewest digits that reads back as the magnitude `b`. -/
def shortestDecimal (f : BinaryFormat) (b : Nat) : Decimal :=
  let top := f.decimalExponent b
  let found := (List.range (f.decimalDigits + 1)).findSome? fun i : Nat =>
    (f.gridPoint? b (top - i)).map fun point => ⟨point, top - i⟩
  found.getD (f.exactDecimal b)

end BinaryFormat

end CityMarkup
