import CityMarkup.Number.Binary

/-!
# Materials and textures

How a surface looks: colors, the materials made of them, and the images laid
over a surface.
-/

namespace CityMarkup

/-- A color with three channels. -/
structure Color where
  red : Single
  green : Single
  blue : Single
deriving DecidableEq, Repr

/-- A color with a fourth channel for its opacity. -/
structure ColorPlusOpacity where
  red : Single
  green : Single
  blue : Single
  opacity : Single
deriving DecidableEq, Repr

namespace Color

/-- The color whose channels are all zero. -/
def black : Color :=
  ⟨.zero, .zero, .zero⟩

/-- Whether all channels are zero. -/
def isZero (c : Color) : Bool :=
  c.red.isZero && c.green.isZero && c.blue.isZero

end Color

namespace ColorPlusOpacity

/-- The color whose channels are all zero. -/
def clear : ColorPlusOpacity :=
  ⟨.zero, .zero, .zero, .zero⟩

/-- Whether all channels are zero. -/
def isZero (c : ColorPlusOpacity) : Bool :=
  c.red.isZero && c.green.isZero && c.blue.isZero && c.opacity.isZero

end ColorPlusOpacity

/-- The shading of a surface.  The identifier says which materials are the
same; the themes a material was declared for are only remembered. -/
structure Material where
  id : String
  themes : List String
  diffuse : Color
  specular : Color
  emissive : Color
  ambientIntensity : Single
  shininess : Single
  transparency : Single
  isSmooth : Bool
deriving DecidableEq, Repr

/-- What a texture shows beyond the edge of its image. -/
inductive WrapMode where
  | none
  | wrap
  | mirror
  | clamp
  | border
deriving DecidableEq, Repr

/-- The word for a wrap mode. -/
def WrapMode.text : WrapMode → String
  | .none => "none"
  | .wrap => "wrap"
  | .mirror => "mirror"
  | .clamp => "clamp"
  | .border => "border"

/-- An image laid over a surface. -/
structure Texture where
  id : String
  url : String
  wrapMode : WrapMode
  borderColor : ColorPlusOpacity
  repeats : Bool
deriving DecidableEq, Repr

/-- A point of a texture image. -/
structure TexturePoint where
  u : Single
  v : Single
deriving DecidableEq, Repr

/-- The texture points of one ring, named by its identifier. -/
structure RingCoordinates where
  ring : String
  points : List TexturePoint
deriving DecidableEq, Repr

end CityMarkup
