import CityMarkup.Markup.Render
import CityMarkup.Namespace.Basic

/-!
# Settings of a document

What is fixed before a document is begun: the namespaces it declares, how it
is laid out, the encoding it names, and whether it is checked before it is
handed out.
-/

namespace CityMarkup

/-- The settings of a document. -/
structure Settings where
  namespaces : NamespaceSet
  defaultNamespace : Option String
  schemaLocation : Option String
  prettyPrint : Bool
  indentSize : Nat
  encoding : String
  validates : Bool
deriving DecidableEq, Repr

namespace Settings

/-- No declarations, and a layout with line breaks and two spaces for each
depth. -/
def initial : Settings where
  namespaces := .empty
  defaultNamespace := none
  schemaLocation := none
  prettyPrint := true
  indentSize := 2
  encoding := "UTF-8"
  validates := false

instance : Inhabited Settings := ⟨initial⟩

/-- The layout of the document. -/
def layout (s : Settings) : Layout :=
  if s.prettyPrint then .indented s.indentSize else .compact

/-- Whether elements of a namespace are written in it.  The default namespace
needs no declaration. -/
def isDeclared (s : Settings) (ns : Namespace) : Bool :=
  ns == .cityGml || s.namespaces.contains ns

/-- Declares a namespace.  The default namespace is not declared this way. -/
def declare (s : Settings) (ns : Namespace) : Settings :=
  if ns.abbreviation.isSome then
    { s with namespaces := s.namespaces.insert ns }
  else
    s

/-- The written name of an element.  Elements of a namespace that is not
declared stand without a prefix. -/
def qualify (s : Settings) (localName : String) (ns : Namespace) : String :=
  match ns.abbreviation with
  | some short =>
    if s.isDeclared ns then short ++ ":" ++ localName else localName
  | none => localName

end Settings

/-- Gives an attribute a value, in its place if the attribute is there and at
the end otherwise. -/
def setAttribute (name value : String) :
    List (String × String) → List (String × String)
  | [] => [(name, value)]
  | first :: rest =>
    if first.1 = name then
      (name, value) :: rest
    else
      first :: setAttribute name value rest

namespace Settings

/-- The attributes by which the document element declares namespaces. -/
def declarationAttributes (s : Settings) : List (String × String) :=
  let withDefault := s.defaultNamespace.elim [] fun uri =>
    setAttribute "xmlns" uri []
  let withPrefixes := s.namespaces.members.foldl
    (fun attributes ns => ns.abbreviation.elim attributes fun short =>
      setAttribute ("xmlns:" ++ short) ns.uri attributes)
    withDefault
  s.schemaLocation.elim withPrefixes fun location =>
    setAttribute "xsi:schemaLocation" location withPrefixes

end Settings

end CityMarkup
