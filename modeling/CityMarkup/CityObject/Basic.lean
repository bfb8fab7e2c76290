import CityMarkup.Attribute.Basic
import CityMarkup.CityObject.FeatureType
import CityMarkup.Geometry.Basic

/-!
# City objects

A city object has a type, attributes, geometries, other city objects below
it, and references to the world outside.
-/

namespace CityMarkup

/-- A postal address.  A missing part and an empty part are different values,
though both are left out of a document. -/
structure Address where
  country : Option String
  locality : Option String
  street : Option String
  number : Option String
  postalCode : Option String
deriving DecidableEq, Repr

/-- The record that an external reference leads to. -/
inductive ExternalObject where
  | name (text : String)
  | uri (text : String)
deriving DecidableEq, Repr

/-- A link to a record of another information system. -/
structure ExternalReference where
  id : String
  informationSystem : String
  object : Option ExternalObject
deriving DecidableEq, Repr

/-- A raster of values over an extent. -/
structure GridCoverage where
  id : String
  envelope : Envelope
deriving DecidableEq, Repr

/-- A city object and everything below it. -/
structure CityObject where
  id : String
  type : FeatureType
  attributes : Attributes
  geometries : List Geometry
  children : List CityObject
  address : Option Address
  externalReference : Option ExternalReference
  coverage : Option GridCoverage
deriving Repr

namespace CityObject

instance : Inhabited CityObject :=
  ⟨⟨"", .genericCityObject, .empty, [], [], none, none, none⟩⟩

mutual

/-- The number of objects in a tree, its root included. -/
def count : CityObject → Nat
  | ⟨_, _, _, _, children, _, _, _⟩ => 1 + countAll children

/-- The number of objects in a list of trees. -/
def countAll : List CityObject → Nat
  | [] => 0
  | o :: rest => o.count + countAll rest

end

end CityObject

end CityMarkup
