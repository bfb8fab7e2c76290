import CityMarkup.Number.Positional

/-!
# Binary floating-point numbers and their texts

A number of a binary format, and the text by which it is written: the
shortest decimal that reads back, in positional notation, with a minus sign
whenever the sign is set.  Values that are no number are all written alike.
-/

namespace CityMarkup

/-- A number of a binary format, as its sign and its magnitude. -/
structure BinaryNumber (f : BinaryFormat) where
  negative : Bool
  magnitude : Nat
  magnitude_lt : magnitude < Nat.pow 2 f.magnitudeBits
deriving DecidableEq, Repr

/-- A double precision number. -/
abbrev Double := BinaryNumber .binary64

/-- A single precision number. -/
abbrev Single := BinaryNumber .binary32

namespace BinaryNumber

variable {f : BinaryFormat}

/-- The number whose sign and magnitude are the low bits of a word. -/
def ofBits (f : BinaryFormat) (word : Nat) : BinaryNumber f where
  negative := word / Nat.pow 2 f.magnitudeBits % 2 == 1
  magnitude := word % Nat.pow 2 f.magnitudeBits
  magnitude_lt := Nat.mod_lt _ (Nat.two_pow_pos _)

/-- The number zero. -/
def zero : BinaryNumber f :=
  ⟨false, 0, Nat.two_pow_pos _⟩

/-- A value that is no number. -/
def nan : BinaryNumber f :=
  ⟨false, Nat.pow 2 f.magnitudeBits - 1, by
    have hpos : 0 < Nat.pow 2 f.magnitudeBits := Nat.two_pow_pos _
    omega⟩

instance : Inhabited (BinaryNumber f) := ⟨zero⟩

/-- Whether the value is no number. -/
def isNaN (x : BinaryNumber f) : Bool :=
  decide (f.infinity < x.magnitude)

/-- Whether the number is infinite. -/
def isInfinite (x : BinaryNumber f) : Bool :=
  x.magnitude == f.infinity

/-- Whether the number is zero, whatever its sign. -/
def isZero (x : BinaryNumber f) : Bool :=
  x.magnitude == 0

/-- The text of a magnitude that is finite: one digit for zero, and otherwise
the fewest digits that read back. -/
def finiteText (f : BinaryFormat) (b : Nat) : List Char :=
  if b = 0 then ['0'] else (f.shortestDecimal b).positional

/-- The text of a number, given the word that stands for infinity. -/
def textWith (infinity : String) (x : BinaryNumber f) : String :=
  if x.isNaN then
    "NaN"
  else
    let body :=
      if x.isInfinite then infinity.toList else finiteText f x.magnitude
    String.ofList (if x.negative then '-' :: body else body)

/-- The text of a number wherever it is not a coordinate. -/
def text (x : BinaryNumber f) : String :=
  x.textWith "inf"

/-- The text of a number used as a coordinate of a position. -/
def coordinateText (x : BinaryNumber f) : String :=
  x.textWith "INF"

end BinaryNumber

end CityMarkup
