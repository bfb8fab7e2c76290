import CityMarkup.CityModel.Basic
import CityMarkup.Namespace.Basic

/-!
# The namespaces of a document

Before a model is written its objects are walked once, to find the namespaces
that the root element has to declare and the schemas that it has to name.
-/

namespace CityMarkup

/-- The namespaces to declare and the namespaces whose schemas are named. -/
structure NamespaceUsage where
  namespaces : NamespaceSet
  schemaLocations : NamespaceSet
deriving DecidableEq, Repr

namespace NamespaceUsage

/-- Declares a namespace. -/
def declare (u : NamespaceUsage) (ns : Namespace) : NamespaceUsage :=
  { u with namespaces := u.namespaces.insert ns }

/-- Names the schema of a namespace. -/
def nameSchema (u : NamespaceUsage) (ns : Namespace) : NamespaceUsage :=
  { u with schemaLocations := u.schemaLocations.insert ns }

/-- What one object asks for, apart from the objects below it.  Objects below
another and addresses stand in elements of the building module. -/
def addObject (u : NamespaceUsage) (type : FeatureType)
    (hasChildren hasAddress : Bool) : NamespaceUsage :=
  let u := (u.declare type.thematicModule).nameSchema type.thematicModule
  let u := if hasChildren || hasAddress then u.declare .building else u
  if hasAddress then u.declare .xal else u

mutual

/-- Adds what an object and the objects below it ask for. -/
def addTree (u : NamespaceUsage) : CityObject → NamespaceUsage
  | ⟨_, type, _, _, children, address, _, _⟩ =>
    addForest (u.addObject type (!children.isEmpty) address.isSome) children

/-- Adds what each tree of a list asks for. -/
def addForest (u : NamespaceUsage) : List CityObject → NamespaceUsage
  | [] => u
  | o :: rest => addForest (u.addTree o) rest

end

/-- The namespaces that every document declares. -/
def always : List Namespace :=
  [.gml, .core, .generics, .xsi, .xlink, .appearance]

/-- Everything that the document of a model asks for. -/
def collect (m : CityModel) : NamespaceUsage :=
  let u := addForest ⟨.empty, .empty⟩ m.objects
  let u := always.foldl declare u
  (u.nameSchema .generics).nameSchema .appearance

/-- The namespaces that get a prefix. -/
def declarations (u : NamespaceUsage) : List Namespace :=
  u.namespaces.members.filter fun ns => ns.abbreviation.isSome

/-- The pairs of identifier and schema location, all separated by spaces. -/
def schemaLocation (u : NamespaceUsage) : Option String :=
  let pairs := u.schemaLocations.members.filterMap fun ns =>
    ns.schemaLocation.map fun location => ns.uri ++ " " ++ location
  if pairs.isEmpty then none else some (" ".intercalate pairs)

end NamespaceUsage

end CityMarkup
