import CityMarkup.Appearance.Themed

/-!
# Writing appearances

The bindings of an object and of everything below it are written by theme.
The identifiers that were written for a theme are remembered from its
materials to its textures, and every binding that repeats one gives a notice.
-/

namespace CityMarkup

namespace Builder

/-- Writes a color, unless it is zero. -/
def addColor (name : String) (c : Color) : Action Builder Unit :=
  .when (!c.isZero) (writeTextElement name .appearance c.text)

/-- Writes a number, unless it is zero. -/
def addScalar (name : String) (x : Single) : Action Builder Unit :=
  .when (!x.isZero) (writeTextElement name .appearance x.text)

/-- Writes a material. -/
def addMaterial (m : Material) : Action Builder Unit := do
  startElement "Material" .appearance
  writeIdentity m.id
  addColor "diffuseColor" m.diffuse
  addColor "specularColor" m.specular
  addScalar "ambientIntensity" m.ambientIntensity
  addColor "emissiveColor" m.emissive
  addScalar "shininess" m.shininess
  addScalar "transparency" m.transparency
  writeTextElement "isSmooth" .appearance
    (if m.isSmooth then "true" else "false")
  endElement

/-- Writes what describes a texture. -/
def addTextureContent (t : Texture) : Action Builder Unit := do
  writeOptionalText "imageURI" .appearance t.url
  writeTextElement "wrapMode" .appearance t.wrapMode.text
  .when (!t.borderColor.isZero)
    (writeTextElement "borderColor" .appearance t.borderColor.text)

/-- Writes a material and its target. -/
def addMaterialBinding (b : MaterialBinding) : Action Builder Unit := do
  startElement "surfaceDataMember" .appearance
  addMaterial b.material
  startElement "target" .appearance
  writeAttribute "uri" (localReference b.target)
  endElement
  endElement

/-- Writes the texture points of a ring. -/
def addRingCoordinates (c : RingCoordinates) : Action Builder Unit := do
  startElement "textureCoordinates" .appearance
  writeAttribute "ring" (localReference c.ring)
  writeText (" ".intercalate (c.points.map TexturePoint.text))
  endElement

/-- Writes the texture points of all rings, if there are any. -/
def addCoordinates (coordinates : List RingCoordinates) :
    Action Builder Unit :=
  .when (!coordinates.isEmpty) do
    startElement "TexCoordList" .appearance
    coordinates.forM addRingCoordinates
    endElement

/-- Writes a texture and its target. -/
def addTextureBinding (b : TextureBinding) : Action Builder Unit := do
  startElement "surfaceDataMember" .appearance
  startElement "ParameterizedTexture" .appearance
  addTextureContent b.texture
  startElement "target" .appearance
  writeAttribute "uri" (localReference b.target)
  addCoordinates b.coordinates
  endElement
  endElement
  endElement

/-- Writes each item whose key has not been written before, and gives a notice
for every other.  The result is the keys written by then. -/
def addOnce {α : Type} (key : α → String) (add : α → Action Builder Unit)
    (repetition : α → Notice) (known : List String) :
    List α → Action Builder (List String)
  | [] => pure known
  | item :: rest =>
    if known.contains (key item) then do
      .note [repetition item]
      addOnce key add repetition known rest
    else do
      add item
      addOnce key add repetition (key item :: known) rest

/-- Writes the bindings of a theme: its materials and then its textures. -/
def addSurfaceData (t : ThemedAppearances) (theme : String) :
    Action Builder Unit := do
  let known ← addOnce (fun b => b.material.id) addMaterialBinding
    (fun b => .materialRepeated b.material.id theme) []
    (t.materialsOf theme)
  let _ ← addOnce (fun b => b.texture.id) addTextureBinding
    (fun b => .textureRepeated b.texture.id theme) known
    (t.texturesOf theme)

/-- Writes a theme. -/
def addTheme (t : ThemedAppearances) (theme : String) :
    Action Builder Unit := do
  startElement "Appearance" .appearance
  writeTextElement "theme" .appearance theme
  addSurfaceData t theme
  endElement

/-- Writes all themes, if there are any bindings. -/
def addThemes (t : ThemedAppearances) : Action Builder Unit :=
  .when (!t.isEmpty) do
    startElement "appearance" .appearance
    t.themes.forM (addTheme t)
    endElement

/-- Writes the appearances of an object and of everything below it. -/
def addAppearances (object : CityObject) : Action Builder Unit :=
  addThemes (.collect object)

end Builder

end CityMarkup
