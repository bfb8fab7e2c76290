import CityMarkup.Number.Shortest

/-!
# Positional notation

A decimal number is written without an exponent: its digits, followed by as
many zeros as a positive exponent asks for, or split by a point where the
exponent is negative.
-/

namespace CityMarkup

namespace Decimal

/-- The decimal digits of a natural number. -/
def digits (n : Nat) : List Char :=
  Nat.toDigits 10 n

/-- The digits of a number split so that the last `places` of them follow the
point; zeros fill up on the left. -/
def pointed (places : Nat) (ds : List Char) : List Char :=
  let padded := List.replicate (places + 1 - ds.length) '0' ++ ds
  padded.take (padded.length - places) ++
    '.' :: padded.drop (padded.length - places)

/-- A decimal number in positional notation, without a point when it is
written as a whole number. -/
def positional (d : Decimal) : List Char :=
  if 0 ≤ d.exponent then
    digits d.coefficient ++ List.replicate d.exponent.toNat '0'
  else
    pointed (-d.exponent).toNat (digits d.coefficient)

example : positional ⟨125, -1⟩ = ['1', '2', '.', '5'] := by decide
example : positional ⟨5, -2⟩ = ['0', '.', '0', '5'] := by decide
example : positional ⟨3, 2⟩ = ['3', '0', '0'] := by decide

end Decimal

end CityMarkup
