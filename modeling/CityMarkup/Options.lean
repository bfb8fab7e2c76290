import CityMarkup.Failure

/-!
# Options

What goes into a document and how it is laid out.
-/

namespace CityMarkup

/-- The choices for writing a model. -/
structure Options where
  prettyPrint : Bool
  indentSize : Nat
  appearances : Bool
  addresses : Bool
  externalReferences : Bool
  encoding : String
  emptyGeometries : Bool
  lodInfo : Bool
  genericAttributes : Bool
  validation : Bool
  optimizeForSize : Bool
deriving DecidableEq, Repr

namespace Options

/-- Line breaks, and everything but empty geometries. -/
def standard : Options where
  prettyPrint := true
  indentSize := 2
  appearances := true
  addresses := true
  externalReferences := true
  encoding := "UTF-8"
  emptyGeometries := false
  lodInfo := true
  genericAttributes := true
  validation := false
  optimizeForSize := false

instance : Inhabited Options := ⟨standard⟩

/-- Whether the document has line breaks.  A small document has none. -/
def breaksLines (o : Options) : Bool :=
  o.prettyPrint && !o.optimizeForSize

/-- The name of an encoding without regard to case and hyphens. -/
def encodingKey (name : String) : List Char :=
  (name.toList.map Char.toLower).filter fun c => c != '-'

/-- Rejects every encoding but one. -/
def validate (o : Options) : Except Failure Unit :=
  if encodingKey o.encoding = "utf8".toList then
    .ok ()
  else
    .error (.unsupported (.encoding o.encoding))

end Options

end CityMarkup
