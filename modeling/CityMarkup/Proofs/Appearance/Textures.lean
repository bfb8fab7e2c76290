import CityMarkup.Proofs.Appearance.Blocks
import CityMarkup.Proofs.Encoding.Nodes

/-!
# Written textures

Materials and textures of a theme share one record of the identifiers that have
been written.  A texture is therefore written for its first binding only if no
material of the theme has the same identifier; it is left out otherwise, though
nothing has been written for it.
-/

namespace CityMarkup

/-! ## Reading textures -/

namespace Node

/-- The nodes in an element. -/
def content : Node → List Node
  | element _ _ content => content
  | text _ => []

/-- Whether a node is the element for a theme. -/
def isThemeNode (s : Settings) (theme : String) (node : Node) : Bool :=
  match node.content with
  | element name _ [text value] :: _ =>
    name == s.qualify "theme" .appearance && value == theme
  | _ => false

/-- Whether a node is the element for a texture and its target. -/
def isTextureMember (s : Settings) (node : Node) : Bool :=
  node.content.any fun inner =>
    inner.isNamed (s.qualify "ParameterizedTexture" .appearance)

/-- The elements for textures that stand in the elements for a theme. -/
def texturesOf (s : Settings) (theme : String) (nodes : List Node) :
    List Node :=
  (((nodes.flatMap content).filter (isThemeNode s theme)).flatMap
    content).filter (isTextureMember s)

end Node

section Reading

open Node

variable (s : Settings)

theorem isTextureMember_material (b : MaterialBinding) :
    (b.fragment.toNode s).isTextureMember s = false := by
  have hmaterial : (b.material.fragment.toNode s).isNamed
      (s.qualify "ParameterizedTexture" .appearance) = false :=
    Fragment.isNamed_toNode s "Material" "ParameterizedTexture" _ _ _
  have htarget : (Fragment.toNode s (.element "target" .appearance
      [("uri", localReference b.target)] [])).isNamed
      (s.qualify "ParameterizedTexture" .appearance) = false :=
    Fragment.isNamed_toNode s "target" "ParameterizedTexture" _ _ _
  rw [MaterialBinding.fragment, Fragment.wrap, Fragment.toNode,
    Fragment.toNodes, Fragment.toNodes, Fragment.toNodes, isTextureMember,
    content, List.any_cons, List.any_cons, hmaterial, htarget]
  rfl

theorem isTextureMember_texture (b : TextureBinding) :
    (b.fragment.toNode s).isTextureMember s = true := by
  rw [TextureBinding.fragment, Fragment.wrap, Fragment.wrap, Fragment.toNode,
    Fragment.toNodes, Fragment.toNodes, isTextureMember, content,
    List.any_cons, Fragment.isNamed_toNode]
  rfl

namespace ThemedAppearances

variable (t : ThemedAppearances)

theorem isThemeNode_themeFragment (theme other : String) :
    ((t.themeFragment other).toNode s).isThemeNode s theme =
      (other == theme) := by
  rw [themeFragment, Fragment.wrap, Fragment.toNode, Fragment.toNodes,
    Fragment.textElement, Fragment.toNode, Fragment.toNodes, Fragment.toNodes,
    Fragment.toNode, isThemeNode, content]
  change (s.qualify "theme" .appearance == s.qualify "theme" .appearance &&
    other == theme) = _
  rw [beq_self_eq_true, Bool.true_and]

/-- In the element for a theme the textures are those that were marked. -/
theorem filter_content_themeFragment (theme : String) :
    ((t.themeFragment theme).toNode s).content.filter
        (isTextureMember s) =
      (written (t.markedTextures theme)).map fun b => b.fragment.toNode s := by
  have htheme : (Fragment.toNode s (.textElement "theme" .appearance
      theme)).isTextureMember s = false := rfl
  have hmaterials : ∀ bindings : List MaterialBinding,
      (Fragment.toNodes s (bindings.map MaterialBinding.fragment)).filter
        (isTextureMember s) = [] := by
    intro bindings
    rw [List.filter_eq_nil_iff]
    intro node hnode
    obtain ⟨b, -, rfl⟩ := (Fragment.mem_toNodes_map s).mp hnode
    rw [isTextureMember_material]
    exact Bool.false_ne_true
  have htextures : ∀ bindings : List TextureBinding,
      (Fragment.toNodes s (bindings.map TextureBinding.fragment)).filter
        (isTextureMember s) = bindings.map fun b => b.fragment.toNode s := by
    intro bindings
    have hall : ∀ node ∈
        Fragment.toNodes s (bindings.map TextureBinding.fragment),
        node.isTextureMember s = true := by
      intro node hnode
      obtain ⟨b, -, rfl⟩ := (Fragment.mem_toNodes_map s).mp hnode
      exact isTextureMember_texture s b
    rw [List.filter_eq_self.mpr hall, Fragment.toNodes_eq_map, List.map_map]
    rfl
  rw [themeFragment, Fragment.wrap, Fragment.toNode, content,
    Fragment.toNodes, Fragment.toNodes_append, List.filter_cons, htheme,
    List.filter_append, hmaterials, htextures, List.nil_append]
  rfl

/-- A list without repetitions has at most one item that is a given one. -/
theorem filter_beq_themes (theme : String) :
    t.themes.filter (· == theme) =
      if theme ∈ t.themes then [theme] else [] := by
  have hnodup : t.themes.Nodup := by
    apply t.ascending_themes.imp
    intro a b h
    exact String.ne_of_lt h
  rw [List.filter_beq, hnodup.count]
  split
  · rfl
  · rfl

theorem texturesOf_eq_nil {theme : String} (h : theme ∉ t.themes) :
    t.texturesOf theme = [] := by
  have htheme : theme ∉ t.textures.keys := by
    intro hmem
    exact h (mem_themes_iff.mpr (Or.inr hmem))
  rw [Dictionary.mem_keys_iff, Bool.not_eq_true, Option.isSome_eq_false_iff,
    Option.isNone_iff_eq_none] at htheme
  rw [texturesOf, htheme]
  rfl

/-- From the elements for all themes, exactly the textures that were marked
for a theme are read. -/
theorem texturesOf_toNodes (theme : String) :
    Node.texturesOf s theme (Fragment.toNodes s t.fragments) =
      (written (t.markedTextures theme)).map fun b => b.fragment.toNode s := by
  have hcontent : (Fragment.toNodes s t.fragments).flatMap content =
      t.themes.map fun theme => (t.themeFragment theme).toNode s := by
    rw [fragments]
    by_cases h : t.isEmpty = true
    · rw [if_pos h, Builder.themes_of_isEmpty h]
      rfl
    · rw [if_neg h, Fragment.toNodes, Fragment.toNodes, Fragment.wrap,
        Fragment.toNode, List.flatMap_singleton, content,
        Fragment.toNodes_eq_map, List.map_map]
      rfl
  have hread : (fun other => isThemeNode s theme
      ((t.themeFragment other).toNode s)) = (· == theme) := by
    funext other
    exact t.isThemeNode_themeFragment s theme other
  rw [Node.texturesOf, hcontent, List.filter_map, Function.comp_def, hread,
    filter_beq_themes]
  by_cases h : theme ∈ t.themes
  · rw [if_pos h, List.map_singleton, List.flatMap_singleton]
    exact t.filter_content_themeFragment s theme
  · rw [if_neg h, markedTextures, texturesOf_eq_nil t h]
    rfl

end ThemedAppearances

end Reading

/-! ## The textures of an object -/

namespace CityObject

/-- The first binding of each texture for a theme. -/
def firstTextures (object : CityObject) (theme : String) :
    List TextureBinding :=
  firsts (fun b => b.texture.id) (object.texturesFor theme)

/-- The first binding of each texture for a theme, without those that have the
identifier of a material of the theme. -/
def shownTextures (object : CityObject) (theme : String) :
    List TextureBinding :=
  (object.firstTextures theme).filter fun b =>
    !((object.materialsFor theme).map fun a => a.material.id).contains
      b.texture.id

/-- Whether no texture of a theme has the identifier of a material of the same
theme. -/
def Separates (object : CityObject) : Prop :=
  ∀ theme, ∀ a ∈ object.materialsFor theme, ∀ b ∈ object.texturesFor theme,
    a.material.id ≠ b.texture.id

theorem written_markedTextures (object : CityObject) (theme : String) :
    ThemedAppearances.written
        ((ThemedAppearances.collect object).markedTextures theme) =
      object.shownTextures theme := by
  rw [ThemedAppearances.markedTextures, ThemedAppearances.written_markFirst,
    ThemedAppearances.materialsOf_collect,
    ThemedAppearances.texturesOf_collect, shownTextures, firstTextures]

/-- With identifiers of their own all textures are shown. -/
theorem Separates.shownTextures_eq {object : CityObject}
    (h : object.Separates) (theme : String) :
    object.shownTextures theme = object.firstTextures theme := by
  apply List.filter_eq_self.mpr
  intro b hb
  rw [Bool.not_eq_true', Bool.eq_false_iff, Ne, List.contains_iff_mem]
  intro hmem
  obtain ⟨a, ha, hid⟩ := List.mem_map.mp hmem
  exact h theme a ha b (mem_of_mem_firsts hb) hid

end CityObject

namespace Builder

theorem exists_adds_textures (s : Settings) (object : CityObject) :
    ∃ (nodes : List Node) (notices : List Notice),
      Adds (addAppearances object) s () nodes notices ∧
      ∀ theme, Node.texturesOf s theme nodes =
        (object.shownTextures theme).map fun b => b.fragment.toNode s := by
  refine ⟨_, _, adds_addAppearances s object, ?_⟩
  intro theme
  rw [ThemedAppearances.texturesOf_toNodes,
    CityObject.written_markedTextures]

/-- The textures that are written for a theme are those that come up first and
do not have the identifier of a material of the theme.  Without such clashes
no texture is missing, and the materials do not matter. -/
theorem addAppearances_textures (s : Settings) :
    (∀ object : CityObject, ∃ (nodes : List Node) (notices : List Notice),
      Adds (addAppearances object) s () nodes notices ∧
      ∀ theme, Node.texturesOf s theme nodes =
        (object.shownTextures theme).map fun b => b.fragment.toNode s) ∧
    (∀ object : CityObject, object.Separates → ∀ theme,
      object.shownTextures theme = object.firstTextures theme) ∧
    ∀ a b : CityObject, a.Separates → b.Separates →
      (∀ theme, a.texturesFor theme = b.texturesFor theme) →
      ∀ theme, a.shownTextures theme = b.shownTextures theme := by
  refine ⟨exists_adds_textures s, ?_, ?_⟩
  · intro object h theme
    exact h.shownTextures_eq theme
  · intro a b ha hb hsame theme
    rw [ha.shownTextures_eq theme, hb.shownTextures_eq theme,
      CityObject.firstTextures, CityObject.firstTextures, hsame theme]

/-- A texture for a roof. -/
def tiling : TextureBinding :=
  ⟨"roof", ⟨"tiles", "tiles.png", .none, .clear, false⟩, []⟩

/-- A house with a texture and a material for its roof. -/
def roofed (material : String) : CityObject :=
  let bound : Bindings := (Bindings.empty.addMaterial "summer" .front
    ⟨"roof", ⟨material, [], .black, .black, .black, .zero, .zero, .zero,
      false⟩⟩).addTexture "summer" .front tiling
  ⟨"house", .building, .empty, [⟨"roof", 2, .roof, [], [], [], bound⟩], [],
    none, none, none⟩

theorem texturesFor_roofed (material theme : String) :
    (roofed material).texturesFor theme =
      if "summer" = theme then [tiling] else [] := by
  have hbound : (Dictionary.empty.insert "summer" tiling).get? theme =
      if "summer" = theme then some tiling else none := by
    rw [Dictionary.get?_insert, Dictionary.get?_empty]
  change ((Dictionary.empty.insert "summer" tiling).get? theme).toList ++ [] ++
    [] = _
  rw [hbound]
  split
  · rfl
  · rfl

theorem id_of_mem_materialsFor_roofed {material theme : String}
    {b : MaterialBinding} (h : b ∈ (roofed material).materialsFor theme) :
    b.material.id = material := by
  let first : MaterialBinding :=
    ⟨"roof", ⟨material, [], .black, .black, .black, .zero, .zero, .zero,
      false⟩⟩
  have hmem : b ∈ ((Dictionary.empty.insert "summer" first).get?
      theme).toList ++ [] ++ [] := h
  rw [List.append_nil, List.append_nil, Option.mem_toList,
    Dictionary.get?_insert, Dictionary.get?_empty] at hmem
  split at hmem
  · rw [← Option.mem_some_iff.mp hmem]
  · cases hmem

theorem separates_roofed {material : String} (h : material ≠ "tiles") :
    (roofed material).Separates := by
  intro theme a ha b hb hid
  rw [texturesFor_roofed] at hb
  rw [id_of_mem_materialsFor_roofed ha] at hid
  split at hb
  · rw [List.mem_singleton.mp hb] at hid
    exact h hid
  · cases hb

theorem firstTextures_roofed (material : String) :
    (roofed material).firstTextures "summer" = [tiling] := by
  rw [CityObject.firstTextures, texturesFor_roofed, if_pos rfl]
  rfl

/-- A material with an identifier of its own leaves the texture alone. -/
theorem addAppearances_textures_paint :
    ∃ (nodes : List Node) (notices : List Notice),
      Adds (addAppearances (roofed "paint")) .initial () nodes notices ∧
      Node.texturesOf .initial "summer" nodes =
        [tiling.fragment.toNode .initial] ∧
      (roofed "paint").shownTextures "summer" =
        (roofed "varnish").shownTextures "summer" := by
  have hpaint : (roofed "paint").Separates := separates_roofed (by decide)
  have hvarnish : (roofed "varnish").Separates :=
    separates_roofed (by decide)
  obtain ⟨hadds, hfirst, hsame⟩ := addAppearances_textures .initial
  obtain ⟨nodes, notices, hnodes, hread⟩ := hadds (roofed "paint")
  refine ⟨nodes, notices, hnodes, ?_, ?_⟩
  · rw [hread, hfirst _ hpaint, firstTextures_roofed]
    rfl
  · apply hsame _ _ hpaint hvarnish
    intro theme
    rw [texturesFor_roofed, texturesFor_roofed]

/-- A run adds the same nodes wherever it is made. -/
theorem Adds.nodes_eq {α : Type} {x : Action Builder α} {s : Settings}
    {result other : α} {nodes more : List Node}
    {notices further : List Notice} (h : Adds x s result nodes notices)
    (h' : Adds x s other more further) : nodes = more := by
  let e : OpenElement := ⟨"", [], []⟩
  have hstates := congrArg Outcome.state ((h e []).symm.trans (h' e []))
  simpa using congrArg Builder.stack hstates

/-- A material with the identifier of the texture takes the place of the
texture, which is then not written for any binding. -/
theorem addAppearances_textures_tiles :
    (∀ theme, (roofed "tiles").texturesFor theme =
      (roofed "paint").texturesFor theme) ∧
    ¬∃ (nodes : List Node) (notices : List Notice),
      Adds (addAppearances (roofed "tiles")) .initial () nodes notices ∧
      Node.texturesOf .initial "summer" nodes =
        ((roofed "tiles").firstTextures "summer").map fun b =>
          b.fragment.toNode .initial := by
  constructor
  · intro theme
    rw [texturesFor_roofed, texturesFor_roofed]
  · rintro ⟨nodes, notices, hnodes, hfirst⟩
    obtain ⟨written, more, hwritten, hread⟩ :=
      exists_adds_textures .initial (roofed "tiles")
    have hshown : (roofed "tiles").shownTextures "summer" = [] := by
      decide +kernel
    rw [hnodes.nodes_eq hwritten, hread, hshown, firstTextures_roofed]
      at hfirst
    cases hfirst

end Builder

end CityMarkup
