import CityMarkup.Document.Fragment
import CityMarkup.Appearance.Bindings

/-!
# Written materials and textures

A binding becomes one element that holds the material or the texture together
with its target.  Colors and numbers that are zero are left out.
-/

namespace CityMarkup

/-- The channels of a color, separated by spaces. -/
def Color.text (c : Color) : String :=
  c.red.text ++ " " ++ c.green.text ++ " " ++ c.blue.text

/-- The channels of a color, separated by spaces. -/
def ColorPlusOpacity.text (c : ColorPlusOpacity) : String :=
  c.red.text ++ " " ++ c.green.text ++ " " ++ c.blue.text ++ " " ++
    c.opacity.text

/-- A point of a texture, as two numbers separated by a space. -/
def TexturePoint.text (p : TexturePoint) : String :=
  p.u.text ++ " " ++ p.v.text

namespace Material

/-- The element for a color, unless the color is zero. -/
def colorFragments (name : String) (c : Color) : List Fragment :=
  if c.isZero then [] else [.textElement name .appearance c.text]

/-- The element for a number, unless the number is zero. -/
def scalarFragments (name : String) (x : Single) : List Fragment :=
  if x.isZero then [] else [.textElement name .appearance x.text]

/-- The element for a material. -/
def fragment (m : Material) : Fragment :=
  .element "Material" .appearance (Fragment.identity m.id)
    (colorFragments "diffuseColor" m.diffuse ++
      colorFragments "specularColor" m.specular ++
      scalarFragments "ambientIntensity" m.ambientIntensity ++
      colorFragments "emissiveColor" m.emissive ++
      scalarFragments "shininess" m.shininess ++
      scalarFragments "transparency" m.transparency ++
      [.textElement "isSmooth" .appearance
        (if m.isSmooth then "true" else "false")])

end Material

namespace Texture

/-- The elements that describe a texture. -/
def fragments (t : Texture) : List Fragment :=
  Fragment.optionalText "imageURI" .appearance t.url ++
    [.textElement "wrapMode" .appearance t.wrapMode.text] ++
    if t.borderColor.isZero then []
    else [.textElement "borderColor" .appearance t.borderColor.text]

end Texture

/-- A reference to the element with an identifier. -/
def localReference (id : String) : String :=
  "#" ++ id

namespace MaterialBinding

/-- The element for a material and its target. -/
def fragment (b : MaterialBinding) : Fragment :=
  .wrap "surfaceDataMember" .appearance
    [b.material.fragment,
      .element "target" .appearance [("uri", localReference b.target)] []]

end MaterialBinding

namespace RingCoordinates

/-- The element for the texture points of a ring. -/
def fragment (c : RingCoordinates) : Fragment :=
  .element "textureCoordinates" .appearance [("ring", localReference c.ring)]
    [.text (" ".intercalate (c.points.map TexturePoint.text))]

end RingCoordinates

namespace TextureBinding

/-- The element for the texture points of all rings, if there are any. -/
def coordinateFragments (b : TextureBinding) : List Fragment :=
  if b.coordinates.isEmpty then
    []
  else
    [.wrap "TexCoordList" .appearance
      (b.coordinates.map RingCoordinates.fragment)]

/-- The element for a texture and its target. -/
def fragment (b : TextureBinding) : Fragment :=
  .wrap "surfaceDataMember" .appearance
    [.wrap "ParameterizedTexture" .appearance
      (b.texture.fragments ++
        [.element "target" .appearance [("uri", localReference b.target)]
          b.coordinateFragments])]

end TextureBinding

end CityMarkup
