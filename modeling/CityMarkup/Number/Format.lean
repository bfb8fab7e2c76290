/-!
# Binary floating-point formats

A binary interchange format stores a number as a sign and a magnitude.  The
magnitudes of a format, read as natural numbers, are ordered like the numbers
they stand for, so neighbouring magnitudes are neighbouring numbers.  Every
finite number is a whole multiple of one smallest unit, and this module
expresses the numbers and the midpoints between them in that unit.
-/

namespace CityMarkup

/-- The field widths of a binary interchange format, with a count of decimal
digits that is enough to tell any two of its numbers apart. -/
structure BinaryFormat where
  fractionBits : Nat
  exponentBits : Nat
  decimalDigits : Nat
deriving DecidableEq, Repr

namespace BinaryFormat

/-- The double precision format. -/
def binary64 : BinaryFormat := ⟨52, 11, 17⟩

/-- The single precision format. -/
def binary32 : BinaryFormat := ⟨23, 8, 9⟩

/-- Width of a magnitude: everything but the sign. -/
def magnitudeBits (f : BinaryFormat) : Nat :=
  f.exponentBits + f.fractionBits

/-- The magnitude of infinity.  Larger magnitudes stand for no number. -/
def infinity (f : BinaryFormat) : Nat :=
  (Nat.pow 2 f.exponentBits - 1) * Nat.pow 2 f.fractionBits

/-- The smallest unit of the format is two to the power of minus its scale. -/
def scale (f : BinaryFormat) : Nat :=
  Nat.pow 2 (f.exponentBits - 1) + f.fractionBits - 2

/-- The number of smallest units that a magnitude stands for. -/
def units (f : BinaryFormat) (b : Nat) : Nat :=
  if b < Nat.pow 2 f.fractionBits then
    b
  else
    (Nat.pow 2 f.fractionBits + b % Nat.pow 2 f.fractionBits) *
      Nat.pow 2 (b / Nat.pow 2 f.fractionBits - 1)

/-- The midpoint between a magnitude and the next smaller one, in halves of
the smallest unit. -/
def lowerMidpoint (f : BinaryFormat) (b : Nat) : Nat :=
  f.units (b - 1) + f.units b

/-- The midpoint between a magnitude and the next larger one, in halves of the
smallest unit. -/
def upperMidpoint (f : BinaryFormat) (b : Nat) : Nat :=
  f.units b + f.units (b + 1)

theorem units_of_lt {f : BinaryFormat} {b : Nat}
    (h : b < Nat.pow 2 f.fractionBits) : f.units b = b := by
  rw [units, if_pos h]

theorem upperMidpoint_eq_lowerMidpoint (f : BinaryFormat) (b : Nat) :
    f.upperMidpoint b = f.lowerMidpoint (b + 1) := rfl

end BinaryFormat

end CityMarkup
