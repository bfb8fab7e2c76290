import CityMarkup.Dictionary
import CityMarkup.Number.Binary

/-!
# Attribute values

Models and city objects carry attributes: values of five kinds, each under a
name.  Attributes are kept in the order of their names.
-/

namespace CityMarkup

/-- The value of an attribute. -/
inductive AttributeValue where
  | string (text : String)
  | double (number : Double)
  | integer (number : Int64)
  | date (text : String)
  | uri (text : String)
deriving DecidableEq, Repr

/-- Attribute values under their names. -/
abbrev Attributes := Dictionary AttributeValue

namespace AttributeValue

/-- The text of a value. -/
def text : AttributeValue → String
  | string s => s
  | double x => x.text
  | integer n => toString n.toInt
  | date s => s
  | uri s => s

/-- Name of the generic element that carries a value of this kind. -/
def genericName : AttributeValue → String
  | string _ => "stringAttribute"
  | double _ => "doubleAttribute"
  | integer _ => "intAttribute"
  | date _ => "dateAttribute"
  | uri _ => "uriAttribute"

end AttributeValue

end CityMarkup
