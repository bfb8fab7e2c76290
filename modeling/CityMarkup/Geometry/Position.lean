import CityMarkup.Number.Binary

/-!
# Positions and envelopes

A position has three coordinates.  An envelope is a box given by two corners;
it is defined when every coordinate of its corners is a number.
-/

namespace CityMarkup

/-- A point in space. -/
structure Position where
  x : Double
  y : Double
  z : Double
deriving DecidableEq, Repr

namespace Position

/-- Whether some coordinate is no number. -/
def hasNaN (p : Position) : Bool :=
  p.x.isNaN || p.y.isNaN || p.z.isNaN

/-- Whether all coordinates are zero. -/
def isOrigin (p : Position) : Bool :=
  p.x.isZero && p.y.isZero && p.z.isZero

end Position

/-- A box with an optional name of its reference system. -/
structure Envelope where
  lower : Position
  upper : Position
  srsName : Option String
deriving DecidableEq, Repr

namespace Envelope

/-- The envelope without any coordinates. -/
def unset : Envelope :=
  ⟨⟨.nan, .nan, .nan⟩, ⟨.nan, .nan, .nan⟩, none⟩

instance : Inhabited Envelope := ⟨unset⟩

/-- Whether every coordinate of both corners is a number. -/
def isDefined (e : Envelope) : Bool :=
  !e.lower.hasNaN && !e.upper.hasNaN

/-- Whether both corners are the origin. -/
def isZero (e : Envelope) : Bool :=
  e.lower.isOrigin && e.upper.isOrigin

end Envelope

end CityMarkup
