import CityMarkup.Appearance.Encoder
import CityMarkup.Attribute.Encoder
import CityMarkup.CityObject.Fragment
import CityMarkup.Geometry.Encoder

/-!
# Writing city objects

An object is written step by step: its attributes, its appearances if it is a
root, its geometries, the objects below it, its address, and its references.
-/

namespace CityMarkup

namespace Builder

/-- Writes the street of an address, if there is a number or a name. -/
def addThoroughfare (a : Address) : Action Builder Unit :=
  let number := Address.part a.number
  let name := Address.part a.street
  .when (number.isSome || name.isSome) do
    startElement "Thoroughfare" .xal
    writeAttribute "Type" "Street"
    number.toList.forM (writeTextElement "ThoroughfareNumber" .xal)
    name.toList.forM (writeTextElement "ThoroughfareName" .xal)
    endElement

/-- Writes a postal code. -/
def addPostalCode (code : String) : Action Builder Unit := do
  startElement "PostalCode" .xal
  writeTextElement "PostalCodeNumber" .xal code
  endElement

/-- Writes the locality of an address, with street and postal code. -/
def addLocality (a : Address) (locality : String) : Action Builder Unit := do
  startElement "Locality" .xal
  writeAttribute "Type" "City"
  writeTextElement "LocalityName" .xal locality
  addThoroughfare a
  (Address.part a.postalCode).toList.forM addPostalCode
  endElement

/-- Writes the country of an address, with the locality. -/
def addCountry (a : Address) (country : String) : Action Builder Unit := do
  startElement "Country" .xal
  writeTextElement "CountryName" .xal country
  (Address.part a.locality).toList.forM (addLocality a)
  endElement

/-- Writes an address. -/
def addAddress (a : Address) : Action Builder Unit := do
  startElement "Address" .cityGml
  startElement "xalAddress" .cityGml
  startElement "AddressDetails" .xal
  (Address.part a.country).toList.forM (addCountry a)
  endElement
  endElement
  endElement

/-- Writes the name of a record that a reference leads to. -/
def addExternalObject : ExternalObject → Action Builder Unit
  | .name text => addRecord "name" text
  | .uri text => addRecord "uri" text
where
  addRecord (kind text : String) : Action Builder Unit :=
    .when (!text.isEmpty) do
      startElement "externalObject" .core
      writeTextElement kind .core text
      endElement

/-- Writes an external reference. -/
def addExternalReference (r : ExternalReference) : Action Builder Unit := do
  startElement "ExternalReference" .core
  writeIdentity r.id
  writeOptionalText "informationSystem" .core r.informationSystem
  r.object.toList.forM addExternalObject
  endElement

/-- Writes a coverage, with its envelope unless that is undefined or zero. -/
def addCoverage (c : GridCoverage) : Action Builder Unit := do
  startElement "RectifiedGridCoverage" .core
  writeIdentity c.id
  .when (c.envelope.isDefined && !c.envelope.isZero) (addEnvelope c.envelope)
  endElement

/-- Writes a geometry of an object in its place, or gives a notice that it has
none. -/
def addPlaced (o : Options) (type : FeatureType) (objectId : String)
    (g : Geometry) : Action Builder Unit :=
  match g.placement o type with
  | .held container => do
    startElement container type.thematicModule
    addGeometry g
    endElement
  | .empty => .note [.emptyGeometry g.id objectId]
  | .noContainer => .note [.noContainer g.lod type g.id objectId]

/-- Writes the address of an object. -/
def addObjectAddress (a : Address) : Action Builder Unit := do
  startElement "address" .building
  addAddress a
  endElement

mutual

/-- Writes an object and everything below it. -/
def addCityObject (o : Options) (isRoot : Bool) :
    CityObject → Action Builder Unit
  | object@⟨id, type, attributes, geometries, children, address, reference,
      coverage⟩ => do
    startElement type.elementName type.thematicModule
    writeIdentity id
    addAttributes attributes o.genericAttributes
    .when (isRoot && o.appearances) (addAppearances object)
    geometries.forM (addPlaced o type id)
    addChildren o children
    .when o.addresses (address.toList.forM addObjectAddress)
    .when o.externalReferences do
      reference.toList.forM addExternalReference
      coverage.toList.forM addCoverage
    endElement

/-- Writes the objects below an object. -/
def addChildren (o : Options) : List CityObject → Action Builder Unit
  | [] => pure ()
  | child :: rest => do
    startElement "boundedBy" .building
    addCityObject o false child
    endElement
    addChildren o rest

end

end Builder

end CityMarkup
