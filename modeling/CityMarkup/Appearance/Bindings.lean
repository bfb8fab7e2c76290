import CityMarkup.Appearance.Material
import CityMarkup.Dictionary

/-!
# Bindings of materials and textures

A target, which is a geometry or a polygon, may bind one material and one
texture for each theme on each of its two sides.  Binding again for the same
theme and side replaces the earlier binding.
-/

namespace CityMarkup

/-- A material for the target with the given identifier. -/
structure MaterialBinding where
  target : String
  material : Material
deriving DecidableEq, Repr

/-- A texture for the target with the given identifier, with the texture
points of the rings of the target. -/
structure TextureBinding where
  target : String
  texture : Texture
  coordinates : List RingCoordinates
deriving DecidableEq, Repr

/-- The two sides of a surface. -/
inductive Side where
  | front
  | back
deriving DecidableEq, Repr

/-- A dictionary from themes for each side. -/
structure Sided (α : Type) where
  front : Dictionary α
  back : Dictionary α
deriving DecidableEq, Repr

namespace Sided

variable {α : Type}

/-- Nothing on either side. -/
def empty : Sided α :=
  ⟨.empty, .empty⟩

/-- What is bound on one side. -/
def on (s : Sided α) : Side → Dictionary α
  | .front => s.front
  | .back => s.back

/-- Binds a value for a theme on one side. -/
def bind (s : Sided α) (theme : String) (side : Side) (value : α) : Sided α :=
  match side with
  | .front => { s with front := s.front.insert theme value }
  | .back => { s with back := s.back.insert theme value }

/-- Whether nothing is bound on either side. -/
def isEmpty (s : Sided α) : Bool :=
  s.front.isEmpty && s.back.isEmpty

end Sided

/-- The materials and textures bound to one target. -/
structure Bindings where
  materials : Sided MaterialBinding
  textures : Sided TextureBinding
deriving DecidableEq, Repr

namespace Bindings

/-- No bindings at all. -/
def empty : Bindings :=
  ⟨.empty, .empty⟩

instance : Inhabited Bindings := ⟨empty⟩

/-- Binds a material for a theme on one side. -/
def addMaterial (b : Bindings) (theme : String) (side : Side)
    (binding : MaterialBinding) : Bindings :=
  { b with materials := b.materials.bind theme side binding }

/-- Binds a texture for a theme on one side. -/
def addTexture (b : Bindings) (theme : String) (side : Side)
    (binding : TextureBinding) : Bindings :=
  { b with textures := b.textures.bind theme side binding }

/-- The themes with a material on one side, in increasing order. -/
def materialThemes (b : Bindings) (side : Side) : List String :=
  (b.materials.on side).keys

/-- The themes with a texture on one side, in increasing order. -/
def textureThemes (b : Bindings) (side : Side) : List String :=
  (b.textures.on side).keys

/-- The material bound for a theme on one side. -/
def material? (b : Bindings) (theme : String) (side : Side) :
    Option MaterialBinding :=
  (b.materials.on side).get? theme

/-- The texture bound for a theme on one side. -/
def texture? (b : Bindings) (theme : String) (side : Side) :
    Option TextureBinding :=
  (b.textures.on side).get? theme

/-- Whether nothing is bound. -/
def isEmpty (b : Bindings) : Bool :=
  b.materials.isEmpty && b.textures.isEmpty

end Bindings

end CityMarkup
