import CityMarkup.CityObject.Encoder
import CityMarkup.Namespace.Usage

/-!
# Written city models

The document of a model declares the namespaces that the model asks for.  Its
document element holds the attributes of the model, its envelope if that is
defined, and one member for each object.
-/

namespace CityMarkup

namespace CityModel

/-- The settings for the document of a model. -/
def settings (o : Options) (m : CityModel) : Settings :=
  let usage := NamespaceUsage.collect m
  { namespaces := (usage.declarations.foldl Settings.declare
      Settings.initial).namespaces
    defaultNamespace := some Namespace.cityGml.uri
    schemaLocation := usage.schemaLocation
    prettyPrint := o.breaksLines
    indentSize := o.indentSize
    encoding := o.encoding
    validates := o.validation }

/-- The attributes of the document element, apart from declarations. -/
def rootAttributes (m : CityModel) : List (String × String) :=
  let name := m.srsName.getD ""
  if name.isEmpty then [] else [("srsName", name)]

/-- The element for a member of a model. -/
def memberFragment (declared : Namespace → Bool) (o : Options)
    (object : CityObject) : Fragment :=
  .wrap "cityObjectMember" .core [object.fragment declared o true]

/-- The content of the document element. -/
def fragments (declared : Namespace → Bool) (o : Options) (m : CityModel) :
    List Fragment :=
  Attributes.fragments m.attributes declared o.genericAttributes ++
    (if m.envelope.isDefined then [m.envelope.fragment] else []) ++
    m.objects.map (memberFragment declared o)

/-- The notices given while the content is written. -/
def notices (o : Options) (m : CityModel) : List Notice :=
  (if m.envelope.isDefined then [] else [.envelopeLeftOut]) ++
    m.objects.flatMap (CityObject.notices o true) ++
    [.encoded m.objects.length]

/-- The notice about the namespaces of a model. -/
def namespaceNotice (m : CityModel) : Notice :=
  let usage := NamespaceUsage.collect m
  .namespacesRequired usage.namespaces usage.schemaLocations

/-- Writes a member of a model. -/
def addMember (o : Options) (object : CityObject) : Action Builder Unit := do
  Builder.startElement "cityObjectMember" .core
  Builder.addCityObject o true object
  Builder.endElement

/-- Writes the extent of a model if it is defined, and gives a notice
otherwise. -/
def addExtent (m : CityModel) : Action Builder Unit :=
  if m.envelope.isDefined then
    Builder.addEnvelope m.envelope
  else
    .note [.envelopeLeftOut]

/-- Builds the document of a model. -/
def build (o : Options) (m : CityModel) : Action Builder Unit := do
  let name := m.srsName.getD ""
  .note [m.namespaceNotice]
  Builder.createDocument "CityModel" .cityGml
  .when (!name.isEmpty) (Builder.writeAttribute "srsName" name)
  Builder.addAttributes m.attributes o.genericAttributes
  m.addExtent
  m.objects.forM (addMember o)
  .note [.encoded m.objects.length]

end CityModel

end CityMarkup
