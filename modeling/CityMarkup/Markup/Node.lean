/-!
# Element trees

The content of a document: elements with attributes and content of their own,
and text between them.
-/

namespace CityMarkup

/-- An element or a piece of text. -/
inductive Node where
  | element (name : String) (attributes : List (String × String))
      (children : List Node)
  | text (value : String)
deriving Repr

namespace Node

/-- Whether the node is an element. -/
def isElement : Node → Bool
  | element .. => true
  | text _ => false

end Node

end CityMarkup
