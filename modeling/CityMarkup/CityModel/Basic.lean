import CityMarkup.CityObject.Basic

/-!
# City models

A city model is a list of city objects with attributes and an extent of its
own.
-/

namespace CityMarkup

/-- A city model. -/
structure CityModel where
  id : String
  srsName : Option String
  envelope : Envelope
  attributes : Attributes
  objects : List CityObject
deriving Repr

namespace CityModel

/-- The number of objects at all depths. -/
def objectCount (m : CityModel) : Nat :=
  CityObject.countAll m.objects

end CityModel

end CityMarkup
