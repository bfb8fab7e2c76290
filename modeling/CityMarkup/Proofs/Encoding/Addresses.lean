import CityMarkup.Proofs.Encoding.Paths

/-!
# Addresses in a document

The parts of an address stand inside of each other, and a part counts only if
it is not empty and all those around it count.  With the other parts left out
an address is in its normal form.  The element for an address shows each part
of that form once and in its place, so that the normal form can be read back
from it, and it shows nothing else.
-/

namespace CityMarkup

/-! ## Normal forms -/

namespace Address

/-- A part that stands inside of another one, which has to count. -/
def within (outer inner : Option String) : Option String :=
  outer.bind fun _ => inner

/-- The address without the parts that do not count: a locality counts in a
country only, and street, number and postal code in a locality only. -/
def normal (a : Address) : Address :=
  let country := part a.country
  let locality := within country (part a.locality)
  { country
    locality
    street := within locality (part a.street)
    number := within locality (part a.number)
    postalCode := within locality (part a.postalCode) }

end Address

/-! ## Reading addresses -/

/-- The text at the end of a path below the country of an address. -/
def Node.countryText? (path : List String) (node : Node) : Option String :=
  textAt? ("Address" :: "xalAddress" :: "AddressDetails" :: "Country" :: path)
    [node]

/-- The address that an element shows. -/
def Address.ofNode (node : Node) : Address where
  country := node.countryText? ["CountryName"]
  locality := node.countryText? ["Locality", "LocalityName"]
  street := node.countryText? ["Locality", "Thoroughfare", "ThoroughfareName"]
  number :=
    node.countryText? ["Locality", "Thoroughfare", "ThoroughfareNumber"]
  postalCode :=
    node.countryText? ["Locality", "PostalCode", "PostalCodeNumber"]

/-! ## The element for an address -/

/-- How a part of an address that may be missing or empty is shown: not at all,
or by one node that fits its text. -/
inductive Shows (sort : String → Node → Prop) :
    Option String → List Node → Prop where
  | missing : Shows sort none []
  | empty : Shows sort (some "") []
  | given {text : String} {node : Node} (htext : text ≠ "")
      (hnode : sort text node) : Shows sort (some text) [node]

namespace Address

variable (s : Settings)

/-- An element that holds one text. -/
def IsText (name text : String) (node : Node) : Prop :=
  node = .element (s.qualify name .xal) [] [.text text]

/-- The elements for a street: none without number and name, and otherwise one
that shows the number before the name. -/
def IsStreet (a : Address) (nodes : List Node) : Prop :=
  ∃ numbers names,
    Shows (IsText s "ThoroughfareNumber") a.number numbers ∧
    Shows (IsText s "ThoroughfareName") a.street names ∧
    nodes =
      if numbers ++ names = [] then []
      else [.element (s.qualify "Thoroughfare" .xal) [("Type", "Street")]
        (numbers ++ names)]

/-- The element for a postal code. -/
def IsPostalCode (code : String) (node : Node) : Prop :=
  ∃ number, IsText s "PostalCodeNumber" code number ∧
    node = .element (s.qualify "PostalCode" .xal) [] [number]

/-- The element for a locality: its name, the street and the postal code. -/
def IsLocality (a : Address) (locality : String) (node : Node) : Prop :=
  ∃ name streets codes,
    IsText s "LocalityName" locality name ∧
    IsStreet s a streets ∧
    Shows (IsPostalCode s) a.postalCode codes ∧
    node = .element (s.qualify "Locality" .xal) [("Type", "City")]
      (name :: (streets ++ codes))

/-- The element for a country: its name and the locality. -/
def IsCountry (a : Address) (country : String) (node : Node) : Prop :=
  ∃ name localities,
    IsText s "CountryName" country name ∧
    Shows (IsLocality s a) a.locality localities ∧
    node = .element (s.qualify "Country" .xal) [] (name :: localities)

/-- The element for an address: the country inside of three elements. -/
def IsWritten (a : Address) (node : Node) : Prop :=
  ∃ countries, Shows (IsCountry s a) a.country countries ∧
    node = .element (s.qualify "Address" .cityGml) []
      [.element (s.qualify "xalAddress" .cityGml) []
        [.element (s.qualify "AddressDetails" .xal) [] countries]]

end Address

/-! ## Reading the element for an address -/

namespace Address

open Fragment

variable (s : Settings)

/-- What stands in the element for a locality. -/
def localityContent (a : Address) (locality : String) : List Fragment :=
  .textElement "LocalityName" .xal locality ::
    (a.thoroughfareFragments ++ a.postalCodeFragments)

theorem countryText?_toNode (a : Address) (path : List String) :
    (a.fragment.toNode s).countryText? path =
      Node.textAt? ("Country" :: path)
        (toNodes s ((part a.country).toList.map a.countryFragment)) := by
  change Node.textAt? _ (toNodes s [a.fragment]) = _
  simp (disch := decide) only [fragment, wrap, textAt?_toNodes_cons, if_true]

theorem countryText?_countryName (a : Address) :
    (a.fragment.toNode s).countryText? ["CountryName"] = part a.country := by
  rw [countryText?_toNode]
  cases part a.country with
  | none => exact textAt?_toNodes_nil s _
  | some country =>
      simp (disch := decide) only [Option.toList_some, List.map_cons,
        countryFragment, wrap, textElement, textAt?_toNodes_cons,
        textAt?_toNodes_text, if_true]

/-- Below the locality there is something to read only if the locality
counts. -/
theorem countryText?_locality (a : Address) (path : List String) :
    (a.fragment.toNode s).countryText? ("Locality" :: path) =
      (within (part a.country) (part a.locality)).bind fun locality =>
        Node.textAt? path (toNodes s (a.localityContent locality)) := by
  rw [countryText?_toNode]
  cases part a.country with
  | none => exact textAt?_toNodes_nil s _
  | some country =>
      have hne : ("CountryName" = "Locality") = False := by decide
      simp (disch := decide) only [Option.toList_some, List.map_cons,
        countryFragment, wrap, textElement, textAt?_toNodes_cons, if_true,
        hne, if_false, within, Option.bind_some]
      cases part a.locality with
      | none => exact textAt?_toNodes_nil s _
      | some locality =>
          simp (disch := decide) only [Option.toList_some, List.map_cons,
            localityFragment, textAt?_toNodes_cons, if_true,
            Option.bind_some, localityContent, textElement]

theorem textAt?_localityName (a : Address) (locality : String) :
    Node.textAt? ["LocalityName"] (toNodes s (a.localityContent locality)) =
      some locality := by
  simp (disch := decide) only [localityContent, textElement,
    textAt?_toNodes_cons, if_true, textAt?_toNodes_text]

/-- What stands in the element for a street. -/
def streetContent (a : Address) : List Fragment :=
  (part a.number).toList.map (.textElement "ThoroughfareNumber" .xal) ++
    (part a.street).toList.map (.textElement "ThoroughfareName" .xal)

theorem thoroughfareFragments_eq (a : Address) :
    a.thoroughfareFragments =
      if a.streetContent = [] then []
      else [.element "Thoroughfare" .xal [("Type", "Street")]
        a.streetContent] := by
  rw [thoroughfareFragments, streetContent]
  cases part a.number <;> cases part a.street <;> rfl

theorem textAt?_street (a : Address) (locality : String)
    (path : List String) :
    Node.textAt? ("Thoroughfare" :: path)
        (toNodes s (a.localityContent locality)) =
      Node.textAt? path (toNodes s a.streetContent) := by
  have hname : ("LocalityName" = "Thoroughfare") = False := by decide
  have hcode : ("PostalCode" = "Thoroughfare") = False := by decide
  rw [localityContent, thoroughfareFragments_eq, postalCodeFragments]
  simp (disch := decide) only [textElement, textAt?_toNodes_cons, hname,
    if_false]
  split
  · rename_i hempty
    rw [hempty, textAt?_toNodes_nil]
    cases part a.postalCode with
    | none => exact textAt?_toNodes_nil s _
    | some code =>
        simp (disch := decide) only [Option.toList_some, List.map_cons,
          List.nil_append, wrap, textAt?_toNodes_cons, hcode, if_false]
        exact textAt?_toNodes_nil s _
  · simp (disch := decide) only [List.cons_append, textAt?_toNodes_cons,
      if_true]

theorem textAt?_number (a : Address) :
    Node.textAt? ["ThoroughfareNumber"] (toNodes s a.streetContent) =
      part a.number := by
  rw [streetContent]
  cases part a.number with
  | some number =>
      simp (disch := decide) only [Option.toList_some, List.map_cons,
        List.cons_append, textElement, textAt?_toNodes_cons, if_true,
        textAt?_toNodes_text]
  | none =>
      have hname : ("ThoroughfareName" = "ThoroughfareNumber") = False := by
        decide
      cases part a.street with
      | none => exact textAt?_toNodes_nil s _
      | some name =>
          simp (disch := decide) only [Option.toList_none, Option.toList_some,
            List.map_nil, List.map_cons, List.nil_append, textElement,
            textAt?_toNodes_cons, hname, if_false]
          exact textAt?_toNodes_nil s _

theorem textAt?_streetName (a : Address) :
    Node.textAt? ["ThoroughfareName"] (toNodes s a.streetContent) =
      part a.street := by
  have hnumber : ("ThoroughfareNumber" = "ThoroughfareName") = False := by
    decide
  have hname : Node.textAt? ["ThoroughfareName"] (toNodes s
      ((part a.street).toList.map (.textElement "ThoroughfareName" .xal))) =
      part a.street := by
    cases part a.street with
    | none => exact textAt?_toNodes_nil s _
    | some name =>
        simp (disch := decide) only [Option.toList_some, List.map_cons,
          textElement, textAt?_toNodes_cons, if_true, textAt?_toNodes_text]
  rw [streetContent]
  cases part a.number with
  | none => exact hname
  | some number =>
      simp (disch := decide) only [Option.toList_some, List.map_cons,
        List.map_nil, List.cons_append, List.nil_append, textElement,
        textAt?_toNodes_cons, hnumber, if_false]
      exact hname

theorem textAt?_postalCode (a : Address) (locality : String) :
    Node.textAt? ["PostalCode", "PostalCodeNumber"]
        (toNodes s (a.localityContent locality)) = part a.postalCode := by
  have hname : ("LocalityName" = "PostalCode") = False := by decide
  have hstreet : ("Thoroughfare" = "PostalCode") = False := by decide
  have hcode : Node.textAt? ["PostalCode", "PostalCodeNumber"]
      (toNodes s a.postalCodeFragments) = part a.postalCode := by
    rw [postalCodeFragments]
    cases part a.postalCode with
    | none => exact textAt?_toNodes_nil s _
    | some code =>
        simp (disch := decide) only [Option.toList_some, List.map_cons, wrap,
          textElement, textAt?_toNodes_cons, if_true, textAt?_toNodes_text]
  rw [localityContent, thoroughfareFragments_eq]
  simp (disch := decide) only [textElement, textAt?_toNodes_cons, hname,
    if_false]
  split
  · exact hcode
  · simp (disch := decide) only [List.cons_append, List.nil_append,
      textAt?_toNodes_cons, hstreet, if_false]
    exact hcode

/-- Reading the element for an address gives the normal form. -/
theorem ofNode_toNode (a : Address) :
    ofNode (a.fragment.toNode s) = a.normal := by
  simp only [ofNode, countryText?_countryName, countryText?_locality,
    textAt?_localityName, textAt?_street, textAt?_number, textAt?_streetName,
    textAt?_postalCode, Option.bind_fun_some]
  rfl

/-! ## Normal forms and elements -/

theorem part_part (value : Option String) : part (part value) = part value := by
  rw [part, part, Option.filter_filter]
  simp only [Bool.and_self]

theorem localityFragment_congr {a b : Address}
    (hstreet : part a.street = part b.street)
    (hnumber : part a.number = part b.number)
    (hcode : part a.postalCode = part b.postalCode) (locality : String) :
    a.localityFragment locality = b.localityFragment locality := by
  rw [localityFragment, localityFragment, thoroughfareFragments,
    thoroughfareFragments, postalCodeFragments, postalCodeFragments, hstreet,
    hnumber, hcode]

/-- An address is written like its normal form. -/
theorem fragment_normal (a : Address) : a.normal.fragment = a.fragment := by
  have hcountry : part a.normal.country = part a.country := part_part _
  rw [fragment, fragment, hcountry]
  cases hc : part a.country with
  | none => rfl
  | some country =>
      have hlocality : part a.normal.locality = part a.locality := by
        rw [normal, hc]
        exact part_part _
      rw [Option.toList_some, List.map_singleton, List.map_singleton,
        countryFragment, countryFragment, hlocality]
      cases hl : part a.locality with
      | none => rfl
      | some locality =>
          have hnormal : a.normal =
              ⟨some country, some locality, part a.street, part a.number,
                part a.postalCode⟩ := by
            rw [normal, hc, hl]
            rfl
          have hcongr : a.normal.localityFragment locality =
              a.localityFragment locality := by
            rw [hnormal]
            exact localityFragment_congr (part_part _) (part_part _)
              (part_part _) locality
          rw [Option.toList_some, List.map_singleton, List.map_singleton,
            hcongr]

theorem toNode_eq_iff_normal_eq (a b : Address) :
    a.fragment.toNode s = b.fragment.toNode s ↔ a.normal = b.normal := by
  refine ⟨fun h => ?_, fun h => ?_⟩
  · rw [← ofNode_toNode s a, h, ofNode_toNode]
  · rw [← fragment_normal a, h, fragment_normal]

/-! ## What is written -/

/-- Parts that are written one by one, each if it counts, are shown. -/
theorem shows_toNodes {sort : String → Node → Prop} {f : String → Fragment}
    (hsort : ∀ text, sort text ((f text).toNode s)) (value : Option String) :
    Shows sort value (toNodes s ((part value).toList.map f)) := by
  cases value with
  | none => exact .missing
  | some text =>
      by_cases htext : text = ""
      · subst htext
        exact .empty
      · have hpart : part (some text) = some text := by
          simp [part, htext]
        rw [hpart]
        exact .given htext (hsort text)

theorem isText_toNode {name : String} (text : String) :
    IsText s name text ((Fragment.textElement name .xal text).toNode s) :=
  rfl

theorem isStreet_toNodes (a : Address) :
    a.IsStreet s (toNodes s a.thoroughfareFragments) := by
  refine ⟨_, _, shows_toNodes s (isText_toNode s) a.number,
    shows_toNodes s (isText_toNode s) a.street, ?_⟩
  rw [← toNodes_append, ← streetContent, thoroughfareFragments_eq,
    toNodes_eq_map s a.streetContent]
  by_cases hempty : a.streetContent = []
  · rw [if_pos hempty, if_pos (List.map_eq_nil_iff.mpr hempty)]
    rfl
  · rw [if_neg hempty, if_neg (mt List.map_eq_nil_iff.mp hempty),
      ← toNodes_eq_map]
    rfl

theorem isPostalCode_toNode (code : String) :
    IsPostalCode s code ((Fragment.wrap "PostalCode" .xal
      [.textElement "PostalCodeNumber" .xal code]).toNode s) :=
  ⟨_, isText_toNode s code, rfl⟩

theorem isLocality_toNode (a : Address) (locality : String) :
    a.IsLocality s locality ((a.localityFragment locality).toNode s) := by
  refine ⟨_, _, _, isText_toNode s locality, isStreet_toNodes s a,
    shows_toNodes s (isPostalCode_toNode s) a.postalCode, ?_⟩
  rw [← postalCodeFragments, ← toNodes_append]
  rfl

theorem isCountry_toNode (a : Address) (country : String) :
    a.IsCountry s country ((a.countryFragment country).toNode s) :=
  ⟨_, _, isText_toNode s country,
    shows_toNodes s (a.isLocality_toNode s) a.locality, rfl⟩

theorem isWritten_toNode (a : Address) :
    a.IsWritten s (a.fragment.toNode s) :=
  ⟨_, shows_toNodes s (a.isCountry_toNode s) a.country, rfl⟩

end Address

/-- Writing an address adds one element to an open document.  It is built as an
address is, with a country only if there is one, with a locality only inside of
that, and with street and postal code only inside of the locality, the number
in front of the name.  Reading it gives the normal form of the address, so two
addresses have the same element if and only if their normal forms agree. -/
theorem Builder.addAddress_readBack (s : Settings) :
    ∃ written : Address → Node,
      (∀ a, Adds (addAddress a) s () [written a] [] ∧
        a.IsWritten s (written a) ∧
        Address.ofNode (written a) = a.normal) ∧
      ∀ a b, written a = written b ↔ a.normal = b.normal := by
  refine ⟨fun a => a.fragment.toNode s, fun a => ⟨?_, ?_, ?_⟩, ?_⟩
  · rw [addAddress_eq]
    exact adds_insert s a.fragment
  · exact a.isWritten_toNode s
  · exact a.ofNode_toNode s
  · exact Address.toNode_eq_iff_normal_eq s

end CityMarkup
