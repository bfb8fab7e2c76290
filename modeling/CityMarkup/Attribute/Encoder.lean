import CityMarkup.Attribute.Fragment

/-!
# Writing attributes

Attributes are written in the order of their names.  Which element an
attribute becomes depends on the namespaces of the document.
-/

namespace CityMarkup

namespace Builder

/-- Writes a generic attribute. -/
def addGenericAttribute (name : String) (value : AttributeValue) :
    Action Builder Unit := do
  startElement value.genericName .generics
  writeAttribute "name" name
  writeTextElement "value" .generics value.text
  endElement

/-- Writes an attribute as its property if that is known and its namespace is
declared, or else as a generic attribute if these are wanted. -/
def addAttribute (generic : Bool) (entry : String × AttributeValue) :
    Action Builder Unit :=
  .withState fun b =>
    let property? := (KnownAttribute.lookup? entry.1).filter fun known =>
      b.settings.isDeclared known.ns
    match property? with
    | some known => writeTextElement known.localName known.ns entry.2.text
    | none => .when generic (addGenericAttribute entry.1 entry.2)

/-- Writes some attributes. -/
def addAttributes (attributes : Attributes) (generic : Bool) :
    Action Builder Unit :=
  attributes.entries.forM (addAttribute generic)

end Builder

end CityMarkup
