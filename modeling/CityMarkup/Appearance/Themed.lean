import CityMarkup.Appearance.Fragment
import CityMarkup.CityObject.Basic

/-!
# Written appearances

The bindings of an object and of everything below it are collected by theme,
in the order in which their targets are visited.  Each theme is written once,
materials before textures.  Within a theme an identifier is written only the
first time it comes up; every later binding gives a notice instead.
-/

namespace CityMarkup

/-- The bindings found at several targets, by theme and in the order in which
they were found. -/
structure ThemedAppearances where
  materials : Dictionary (List MaterialBinding)
  textures : Dictionary (List TextureBinding)
deriving DecidableEq, Repr

/-- Appends every entry of a dictionary to the list for its key. -/
def Dictionary.pushAll {α : Type} (d : Dictionary (List α))
    (added : Dictionary α) : Dictionary (List α) :=
  added.entries.foldl (fun d entry => d.push entry.1 entry.2) d

namespace ThemedAppearances

/-- No bindings at all. -/
def empty : ThemedAppearances :=
  ⟨.empty, .empty⟩

/-- Adds the bindings of one target, those of the front before those of the
back. -/
def addTarget (t : ThemedAppearances) (b : Bindings) : ThemedAppearances where
  materials := (t.materials.pushAll b.materials.front).pushAll
    b.materials.back
  textures := (t.textures.pushAll b.textures.front).pushAll b.textures.back

mutual

/-- Adds the bindings of a geometry, of those nested in it, and then of its
polygons. -/
def addGeometry (t : ThemedAppearances) : Geometry → ThemedAppearances
  | ⟨_, _, _, polygons, _, children, appearance⟩ =>
    (polygons.map Polygon.appearance).foldl addTarget
      (addGeometries (t.addTarget appearance) children)

/-- Adds the bindings of some geometries. -/
def addGeometries (t : ThemedAppearances) : List Geometry → ThemedAppearances
  | [] => t
  | g :: rest => addGeometries (t.addGeometry g) rest

end

mutual

/-- Adds the bindings of an object and of the objects below it. -/
def addObject (t : ThemedAppearances) : CityObject → ThemedAppearances
  | ⟨_, _, _, geometries, children, _, _, _⟩ =>
    addObjects (t.addGeometries geometries) children

/-- Adds the bindings of some objects. -/
def addObjects (t : ThemedAppearances) : List CityObject → ThemedAppearances
  | [] => t
  | o :: rest => addObjects (t.addObject o) rest

end

/-- All bindings of an object and of everything below it. -/
def collect (o : CityObject) : ThemedAppearances :=
  empty.addObject o

/-- Whether there are no bindings. -/
def isEmpty (t : ThemedAppearances) : Bool :=
  t.materials.isEmpty && t.textures.isEmpty

/-- All themes, in increasing order. -/
def themes (t : ThemedAppearances) : List String :=
  ((t.materials.keys ++ t.textures.keys).foldl
    (fun (d : Dictionary Unit) theme => d.insert theme ()) .empty).keys

/-- The materials of a theme. -/
def materialsOf (t : ThemedAppearances) (theme : String) :
    List MaterialBinding :=
  (t.materials.get? theme).getD []

/-- The textures of a theme. -/
def texturesOf (t : ThemedAppearances) (theme : String) :
    List TextureBinding :=
  (t.textures.get? theme).getD []

/-- Tells for each item whether its key comes up for the first time, after
the given keys. -/
def markFirst {α : Type} (key : α → String) (known : List String) :
    List α → List (Bool × α)
  | [] => []
  | item :: rest =>
    if known.contains (key item) then
      (false, item) :: markFirst key known rest
    else
      (true, item) :: markFirst key (key item :: known) rest

/-- The materials of a theme, each with the answer whether it is written. -/
def markedMaterials (t : ThemedAppearances) (theme : String) :
    List (Bool × MaterialBinding) :=
  markFirst (fun b => b.material.id) [] (t.materialsOf theme)

/-- The textures of a theme, each with the answer whether it is written.  The
identifiers of the materials of the theme are known already. -/
def markedTextures (t : ThemedAppearances) (theme : String) :
    List (Bool × TextureBinding) :=
  markFirst (fun b => b.texture.id)
    ((t.materialsOf theme).map fun b => b.material.id) (t.texturesOf theme)

/-- The items marked as written. -/
def written {α : Type} (marked : List (Bool × α)) : List α :=
  (marked.filter fun item => item.1).map (·.2)

/-- The items not marked as written. -/
def repeated {α : Type} (marked : List (Bool × α)) : List α :=
  (marked.filter fun item => !item.1).map (·.2)

/-- The element for one theme. -/
def themeFragment (t : ThemedAppearances) (theme : String) : Fragment :=
  .wrap "Appearance" .appearance
    (.textElement "theme" .appearance theme ::
      ((written (t.markedMaterials theme)).map MaterialBinding.fragment ++
        (written (t.markedTextures theme)).map TextureBinding.fragment))

/-- The notices for one theme. -/
def themeNotices (t : ThemedAppearances) (theme : String) : List Notice :=
  (repeated (t.markedMaterials theme)).map
      (fun b => .materialRepeated b.material.id theme) ++
    (repeated (t.markedTextures theme)).map
      fun b => .textureRepeated b.texture.id theme

/-- The element for all themes, if there are any bindings. -/
def fragments (t : ThemedAppearances) : List Fragment :=
  if t.isEmpty then
    []
  else
    [.wrap "appearance" .appearance (t.themes.map t.themeFragment)]

/-- The notices for all themes. -/
def notices (t : ThemedAppearances) : List Notice :=
  t.themes.flatMap t.themeNotices

end ThemedAppearances

end CityMarkup
