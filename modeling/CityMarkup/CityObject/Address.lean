import CityMarkup.Document.Fragment
import CityMarkup.CityObject.Basic

/-!
# Written addresses

The parts of an address are nested: a locality stands in a country, and street
and postal code stand in a locality.  A part that is missing or empty is left
out together with everything that would stand in it.
-/

namespace CityMarkup

namespace Address

/-- A part of an address, with the empty part counted as missing. -/
def part (value : Option String) : Option String :=
  value.filter fun text => !text.isEmpty

/-- The element for the street, if there is a number or a name. -/
def thoroughfareFragments (a : Address) : List Fragment :=
  let number := part a.number
  let name := part a.street
  if number.isSome || name.isSome then
    [.element "Thoroughfare" .xal [("Type", "Street")]
      (number.toList.map (.textElement "ThoroughfareNumber" .xal) ++
        name.toList.map (.textElement "ThoroughfareName" .xal))]
  else
    []

/-- The element for the postal code, if there is one. -/
def postalCodeFragments (a : Address) : List Fragment :=
  (part a.postalCode).toList.map fun code =>
    .wrap "PostalCode" .xal [.textElement "PostalCodeNumber" .xal code]

/-- The element for the locality, with street and postal code. -/
def localityFragment (a : Address) (locality : String) : Fragment :=
  .element "Locality" .xal [("Type", "City")]
    (.textElement "LocalityName" .xal locality ::
      (a.thoroughfareFragments ++ a.postalCodeFragments))

/-- The element for the country, with the locality. -/
def countryFragment (a : Address) (country : String) : Fragment :=
  .wrap "Country" .xal
    (.textElement "CountryName" .xal country ::
      (part a.locality).toList.map a.localityFragment)

/-- The element for an address. -/
def fragment (a : Address) : Fragment :=
  .wrap "Address" .cityGml
    [.wrap "xalAddress" .cityGml
      [.wrap "AddressDetails" .xal
        ((part a.country).toList.map a.countryFragment)]]

end Address

end CityMarkup
