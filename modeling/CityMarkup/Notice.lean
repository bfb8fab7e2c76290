import CityMarkup.Failure
import CityMarkup.Namespace.Basic

/-!
# Notices

What happens while a document is built and saved can be followed through
notices.  Each has a level and a wording.
-/

namespace CityMarkup

/-- How much a notice matters. -/
inductive Level where
  | error
  | info
  | debug
  | trace
deriving DecidableEq, Repr

/-- The word for a level. -/
def Level.text : Level → String
  | error => "ERROR"
  | info => "INFO"
  | debug => "DEBUG"
  | trace => "TRACE"

/-- Something that happened. -/
inductive Notice where
  | failed (failure : Failure)
  | writingFailed (failure : Failure)
  | savedToFile (path : String)
  | savedToStream
  | namespacesRequired (namespaces schemaLocations : NamespaceSet)
  | envelopeLeftOut
  | encoded (objects : Nat)
  | emptyGeometry (geometry object : String)
  | noContainer (lod : Nat) (type : FeatureType) (geometry object : String)
  | materialRepeated (material theme : String)
  | textureRepeated (texture theme : String)
deriving DecidableEq, Repr

namespace Notice

/-- The level of a notice. -/
def level : Notice → Level
  | failed _ | writingFailed _ => .error
  | savedToFile _ | savedToStream => .info
  | namespacesRequired .. | envelopeLeftOut | encoded _ | emptyGeometry ..
  | noContainer .. => .debug
  | materialRepeated .. | textureRepeated .. => .trace

/-- The labels of a set of namespaces, in curly brackets. -/
def listing (s : NamespaceSet) : String :=
  "\x7b" ++ ", ".intercalate (s.members.map Namespace.label) ++ "\x7d"

/-- The wording of a notice. -/
def text : Notice → String
  | failed failure => failure.message
  | writingFailed failure => "CityGML writing failed: " ++ failure.message
  | savedToFile path => "Saved CityGML document to " ++ path
  | savedToStream => "Saved CityGML document to stream"
  | namespacesRequired namespaces schemaLocations =>
    "Namespaces required: " ++ listing namespaces ++
      "; schema locations: " ++ listing schemaLocations
  | envelopeLeftOut => "Model envelope has NaN bounds; not written"
  | encoded objects =>
    "Encoded " ++ toString objects ++ " root city object(s)"
  | emptyGeometry geometry object =>
    "Skipping empty geometry '" ++ geometry ++ "' of '" ++ object ++ "'"
  | noContainer lod type geometry object =>
    "No LOD" ++ toString lod ++ " container for " ++ type.elementName ++
      "; geometry '" ++ geometry ++ "' of '" ++ object ++ "' not written"
  | materialRepeated material theme =>
    "Material '" ++ material ++ "' already written for theme '" ++ theme ++
      "'"
  | textureRepeated texture theme =>
    "Texture '" ++ texture ++ "' already written for theme '" ++ theme ++
      "'"

/-- A notice as one line: its level and its wording. -/
def line (n : Notice) : String :=
  n.level.text ++ " " ++ n.text

end Notice

end CityMarkup
