import CityMarkup.Proofs.Appearance.Parameters
import CityMarkup.Proofs.Encoding.Insertion
import CityMarkup.Proofs.Encoding.Recovery

/-!
# Surface data in a document

A material or a texture is written together with its target.  Parameters that
are zero are left out, and so are the themes of a material, the identifier of a
texture and whether it repeats; without these a binding is in its normal form.
The normal form can be read back from what is written, with all texture points
in their order and under their rings, and it is all that can be read.
-/

namespace CityMarkup

/-! ## Normal forms -/

/-- The color with the given channels. -/
def Color.ofNumbers : List Single → Color
  | [red, green, blue] => ⟨red, green, blue⟩
  | _ => .black

/-- The color with the given channels. -/
def ColorPlusOpacity.ofNumbers : List Single → ColorPlusOpacity
  | [red, green, blue, opacity] => ⟨red, green, blue, opacity⟩
  | _ => .clear

/-- The color that is read back. -/
def Color.normal (c : Color) : Color :=
  ofNumbers (normalNumbers c.channels)

/-- The color that is read back. -/
def ColorPlusOpacity.normal (c : ColorPlusOpacity) : ColorPlusOpacity :=
  ofNumbers (normalNumbers c.channels)

/-- The number that is read back where only numbers that are not zero are
written. -/
def Single.normal (x : Single) : Single :=
  (normalNumbers [x]).headD .zero

/-- The point with one value for all coordinates that are no number. -/
def TexturePoint.canonical (p : TexturePoint) : TexturePoint :=
  ⟨p.u.canonical, p.v.canonical⟩

/-- The binding without the themes of its material. -/
def MaterialBinding.normal (b : MaterialBinding) : MaterialBinding where
  target := b.target
  material :=
    { id := b.material.id
      themes := []
      diffuse := b.material.diffuse.normal
      specular := b.material.specular.normal
      emissive := b.material.emissive.normal
      ambientIntensity := Single.normal b.material.ambientIntensity
      shininess := Single.normal b.material.shininess
      transparency := Single.normal b.material.transparency
      isSmooth := b.material.isSmooth }

/-- The texture points of a ring as they are read back. -/
def RingCoordinates.canonical (c : RingCoordinates) : RingCoordinates :=
  ⟨c.ring, c.points.map TexturePoint.canonical⟩

/-- The binding without the identifier of its texture, and of a texture that
does not repeat. -/
def TextureBinding.normal (b : TextureBinding) : TextureBinding where
  target := b.target
  texture :=
    { id := ""
      url := b.texture.url
      wrapMode := b.texture.wrapMode
      borderColor := b.texture.borderColor.normal
      repeats := false }
  coordinates := b.coordinates.map RingCoordinates.canonical

theorem Color.channels_normal (c : Color) :
    c.normal.channels = normalNumbers c.channels := by
  rw [normal, normalNumbers]
  split <;> rfl

theorem ColorPlusOpacity.channels_normal (c : ColorPlusOpacity) :
    c.normal.channels = normalNumbers c.channels := by
  rw [normal, normalNumbers]
  split <;> rfl

theorem Single.singleton_normal (x : Single) :
    [normal x] = normalNumbers [x] := by
  rw [normal, normalNumbers]
  split <;> rfl

/-! ## Reading surface data -/

/-- The identifier to which an attribute refers. -/
def referenced (name : String) (attributes : List (String × String)) :
    String :=
  String.ofList (((attributes.lookup name).getD "").toList.drop 1)

/-- The wrap mode for a word. -/
def WrapMode.ofText : String → WrapMode
  | "wrap" => .wrap
  | "mirror" => .mirror
  | "clamp" => .clamp
  | "border" => .border
  | _ => .none

/-- The points whose coordinates follow one another. -/
def TexturePoint.ofNumbers : List Single → List TexturePoint
  | u :: v :: rest => ⟨u, v⟩ :: ofNumbers rest
  | _ => []

open Parameter in
/-- The material and the target in an element for both. -/
def MaterialBinding.ofNode (node : Node) : MaterialBinding :=
  let member := Node.contentOf "surfaceDataMember" [node]
  let content := Node.contentOf "Material" member
  let attributes := Node.attributesOf "Material" member
  { target := referenced "uri" (Node.attributesOf "target" member)
    material :=
      { id := (attributes.lookup "gml:id").getD ""
        themes := []
        diffuse := .ofNumbers (numbersOf "diffuseColor" 3 content)
        specular := .ofNumbers (numbersOf "specularColor" 3 content)
        emissive := .ofNumbers (numbersOf "emissiveColor" 3 content)
        ambientIntensity :=
          (numbersOf "ambientIntensity" 1 content).headD .zero
        shininess := (numbersOf "shininess" 1 content).headD .zero
        transparency := (numbersOf "transparency" 1 content).headD .zero
        isSmooth := Node.textAt? ["isSmooth"] content == some "true" } }

/-- The ring and its texture points in an element for them. -/
def RingCoordinates.ofNode (node : Node) : RingCoordinates where
  ring := referenced "ring" (Node.attributesOf "textureCoordinates" [node])
  points := TexturePoint.ofNumbers
    (Parameter.numbersOf "textureCoordinates" 0 [node])

/-- The texture and the target in an element for both. -/
def TextureBinding.ofNode (node : Node) : TextureBinding :=
  let content :=
    Node.contentAt ["surfaceDataMember", "ParameterizedTexture"] [node]
  { target := referenced "uri" (Node.attributesOf "target" content)
    texture :=
      { id := ""
        url := (Node.textAt? ["imageURI"] content).getD ""
        wrapMode := .ofText ((Node.textAt? ["wrapMode"] content).getD "")
        borderColor :=
          .ofNumbers (Parameter.numbersOf "borderColor" 4 content)
        repeats := false }
    coordinates := (Node.contentAt ["target", "TexCoordList"] content).map
      RingCoordinates.ofNode }

/-! ## What is written -/

/-- An element without attributes that holds one piece of text. -/
def IsTextElement (s : Settings) (name value : String) (node : Node) : Prop :=
  node = .element (s.qualify name .appearance) [] [.text value]

/-- The parameters of a material in the order in which they are written. -/
def Material.parameters (m : Material) : List Parameter :=
  [⟨"diffuseColor", m.diffuse.channels⟩,
    ⟨"specularColor", m.specular.channels⟩,
    ⟨"ambientIntensity", [m.ambientIntensity]⟩,
    ⟨"emissiveColor", m.emissive.channels⟩,
    ⟨"shininess", [m.shininess]⟩,
    ⟨"transparency", [m.transparency]⟩]

/-- The only parameter of a texture. -/
def Texture.parameters (t : Texture) : List Parameter :=
  [⟨"borderColor", t.borderColor.channels⟩]

/-- The element for a material, with its parameters that are not zero, and for
its target. -/
def MaterialBinding.IsWritten (s : Settings) (b : MaterialBinding)
    (node : Node) : Prop :=
  ∃ parameters smooth,
    List.Forall₂ (Parameter.IsWritten s)
      (Parameter.shown b.material.parameters) parameters ∧
    IsTextElement s "isSmooth" (if b.material.isSmooth then "true" else "false")
      smooth ∧
    node = .element (s.qualify "surfaceDataMember" .appearance) []
      [.element (s.qualify "Material" .appearance)
          (if b.material.id.isEmpty then [] else [("gml:id", b.material.id)])
          (parameters ++ [smooth]),
        .element (s.qualify "target" .appearance)
          [("uri", "#" ++ b.target)] []]

/-- The element for the texture points of a ring, with two tokens for each. -/
def RingCoordinates.IsWritten (s : Settings) (c : RingCoordinates)
    (node : Node) : Prop :=
  ∃ text,
    tokensOf text = c.points.flatMap (fun p => [p.u.text, p.v.text]) ∧
    (tokensOf text).length = 2 * c.points.length ∧
    node = .element (s.qualify "textureCoordinates" .appearance)
      [("ring", "#" ++ c.ring)] [.text text]

/-- The element for a texture, with its border color if that is not zero, and
for its target, with a list of texture points if there are any. -/
def TextureBinding.IsWritten (s : Settings) (b : TextureBinding)
    (node : Node) : Prop :=
  ∃ image mode border rings,
    List.Forall₂ (IsTextElement s "imageURI")
      (if b.texture.url = "" then [] else [b.texture.url]) image ∧
    IsTextElement s "wrapMode" b.texture.wrapMode.text mode ∧
    List.Forall₂ (Parameter.IsWritten s)
      (Parameter.shown b.texture.parameters) border ∧
    List.Forall₂ (RingCoordinates.IsWritten s) b.coordinates rings ∧
    node = .element (s.qualify "surfaceDataMember" .appearance) []
      [.element (s.qualify "ParameterizedTexture" .appearance) []
        (image ++ [mode] ++ border ++
          [.element (s.qualify "target" .appearance)
            [("uri", "#" ++ b.target)]
            (if b.coordinates = [] then []
            else [.element (s.qualify "TexCoordList" .appearance) []
              rings])])]

/-! ## Fragments -/

variable (s : Settings)

theorem referenced_localReference (name id : String) :
    referenced name ([(name, localReference id)].foldl
      (fun l a => setAttribute a.1 a.2 l) []) = id := by
  have hlookup : ([(name, localReference id)].foldl
      (fun l a => setAttribute a.1 a.2 l) []).lookup name =
      some (localReference id) := List.lookup_cons_self
  have htext : (localReference id).toList = '#' :: id.toList := by
    simp [localReference]
  rw [referenced, hlookup, Option.getD_some, htext, List.drop_one,
    List.tail_cons, String.ofList_toList]

theorem WrapMode.ofText_text (mode : WrapMode) : ofText mode.text = mode := by
  cases mode <;> rfl

namespace Material

/-- The last element of a material. -/
def smoothFragment (m : Material) : Fragment :=
  .textElement "isSmooth" .appearance (if m.isSmooth then "true" else "false")

/-- The elements of a material. -/
def content (m : Material) : List Fragment :=
  m.parameters.flatMap Parameter.fragments ++ [m.smoothFragment]

theorem fragment_eq (m : Material) :
    m.fragment = .element "Material" .appearance (Fragment.identity m.id)
      m.content := by
  rw [fragment, content]
  simp only [Parameter.colorFragments_eq, Parameter.scalarFragments_eq,
    parameters, List.flatMap_cons, List.flatMap_nil, List.append_assoc,
    List.append_nil]
  rfl

theorem names_parameters (m : Material) :
    m.parameters.map Parameter.name =
      ["diffuseColor", "specularColor", "ambientIntensity", "emissiveColor",
        "shininess", "transparency"] := rfl

theorem distinct_parameters (m : Material) :
    Parameter.Distinct m.parameters where
  plain := by
    rw [names_parameters]
    decide
  nodup := by
    rw [names_parameters]
    decide

theorem smooth_notMem (m : Material) :
    "isSmooth" ∉ m.parameters.map Parameter.name := by
  rw [names_parameters]
  decide

/-- Reading the parameters of a material gives their numbers. -/
theorem numbersOf_parameters (m : Material) : ∀ p ∈ m.parameters,
    Parameter.numbersOf p.name p.numbers.length
      (Fragment.toNodes s m.content) = normalNumbers p.numbers := by
  intro p hp
  apply Parameter.numbersOf_toNodes s m.distinct_parameters hp
  have hne : "isSmooth" ≠ p.name := by
    intro heq
    exact m.smooth_notMem (heq ▸ List.mem_map_of_mem hp)
  rw [smoothFragment, Fragment.textElement,
    Fragment.textAt?_toNodes_cons s (by decide), if_neg hne]
  exact Fragment.textAt?_toNodes_nil s _

theorem textAt?_smooth (m : Material) :
    Node.textAt? ["isSmooth"] (Fragment.toNodes s m.content) =
      some (if m.isSmooth then "true" else "false") := by
  rw [content, Fragment.textAt?_append_of_isOther s
      (m.distinct_parameters.isOther m.smooth_notMem), smoothFragment,
    Fragment.textElement, Fragment.textAt?_toNodes_cons s (by decide),
    if_pos rfl, Fragment.textAt?_toNodes_text]

theorem contentOf_fragment (m : Material) (rest : List Fragment) :
    Node.contentOf "Material" (Fragment.toNodes s (m.fragment :: rest)) =
      Fragment.toNodes s m.content := by
  rw [fragment_eq, Fragment.contentOf_toNodes_cons s (by decide), if_pos rfl]

theorem attributesOf_fragment (m : Material) (rest : List Fragment) :
    Node.attributesOf "Material" (Fragment.toNodes s (m.fragment :: rest)) =
      (Fragment.identity m.id).foldl
        (fun l a => setAttribute a.1 a.2 l) [] := by
  rw [fragment_eq, Fragment.attributesOf_toNodes_cons s (by decide),
    if_pos rfl]

end Material

namespace MaterialBinding

/-- The element for the target of a material. -/
def targetFragment (b : MaterialBinding) : Fragment :=
  .element "target" .appearance [("uri", localReference b.target)] []

theorem contentOf_fragment (b : MaterialBinding) :
    Node.contentOf "surfaceDataMember" [b.fragment.toNode s] =
      Fragment.toNodes s [b.material.fragment, b.targetFragment] := by
  rw [fragment, Fragment.wrap, Fragment.contentOf_toNode s (by decide),
    targetFragment]

theorem attributesOf_target (b : MaterialBinding) :
    Node.attributesOf "target"
        (Fragment.toNodes s [b.material.fragment, b.targetFragment]) =
      [("uri", localReference b.target)].foldl
        (fun l a => setAttribute a.1 a.2 l) [] := by
  rw [Material.fragment_eq, Fragment.attributesOf_toNodes_cons s (by decide),
    if_neg (by decide), targetFragment,
    Fragment.attributesOf_toNodes_cons s (by decide), if_pos rfl]

/-- Reading the element for a material and its target gives the normal form of
the binding. -/
theorem ofNode_toNode (b : MaterialBinding) :
    ofNode (b.fragment.toNode s) = b.normal := by
  have hnumbers := b.material.numbersOf_parameters s
  have hid : (if b.material.id.isEmpty then none else some b.material.id).getD
      "" = b.material.id := by
    split
    · rename_i hempty
      exact (String.isEmpty_iff.mp hempty).symm
    · rfl
  have hsmooth : (some (if b.material.isSmooth then "true" else "false") ==
      some "true") = b.material.isSmooth := by
    cases b.material.isSmooth <;> decide
  simp only [Material.parameters, List.forall_mem_cons] at hnumbers
  obtain ⟨hdiffuse, hspecular, hambient, hemissive, hshininess, htransparency,
    -⟩ := hnumbers
  simp only [ofNode, contentOf_fragment, attributesOf_target,
    referenced_localReference, Material.contentOf_fragment,
    Material.attributesOf_fragment, Fragment.lookup_identity,
    Material.textAt?_smooth, hid, hsmooth, normal, Color.normal,
    Single.normal, ← hdiffuse, ← hspecular, ← hambient, ← hemissive,
    ← hshininess, ← htransparency]
  rfl

end MaterialBinding

namespace RingCoordinates

theorem ofNumbers_flatMap (points : List TexturePoint) :
    TexturePoint.ofNumbers (points.flatMap fun p => [p.u, p.v]) = points := by
  induction points with
  | nil => rfl
  | cons p rest ih =>
      rw [List.flatMap_cons, List.cons_append, List.singleton_append,
        TexturePoint.ofNumbers, ih]

/-- The coordinates of all points, one after the other. -/
def numbers (c : RingCoordinates) : List Single :=
  c.points.flatMap fun p => [p.u, p.v]

theorem text_eq (c : RingCoordinates) :
    " ".intercalate (c.points.map TexturePoint.text) =
      BinaryNumber.listText c.numbers := by
  have htext : TexturePoint.text = fun p : TexturePoint =>
      " ".intercalate [p.u.text, p.v.text] := by
    funext p
    simp [TexturePoint.text, String.intercalate_cons_cons]
  have hne : ∀ p : TexturePoint, [p.u.text, p.v.text] ≠ [] :=
    fun p => List.cons_ne_nil _ _
  rw [htext, intercalate_intercalate hne, BinaryNumber.listText, numbers,
    List.map_flatMap]
  rfl

theorem numbers_canonical (c : RingCoordinates) :
    c.canonical.numbers = c.numbers.map BinaryNumber.canonical := by
  rw [numbers, canonical, numbers, List.flatMap_map, List.map_flatMap]
  rfl

theorem fragment_canonical (c : RingCoordinates) :
    c.canonical.fragment = c.fragment := by
  rw [fragment, fragment, text_eq, text_eq, numbers_canonical,
    listText_canonical]
  rfl

/-- Reading the element for the texture points of a ring gives the points. -/
theorem ofNode_toNode (c : RingCoordinates) :
    ofNode (c.fragment.toNode s) = c.canonical := by
  have hring : Node.attributesOf "textureCoordinates" [c.fragment.toNode s] =
      [("ring", localReference c.ring)].foldl
        (fun l a => setAttribute a.1 a.2 l) [] := by
    rw [fragment, Fragment.attributesOf_toNode s (by decide)]
  have hpoints : Node.textAt? ["textureCoordinates"] [c.fragment.toNode s] =
      some (BinaryNumber.listText c.numbers) := by
    rw [fragment, Node.textAt?, Fragment.contentOf_toNode s (by decide),
      Fragment.textAt?_toNodes_text, c.text_eq]
  rw [ofNode, hring, referenced_localReference, Parameter.numbersOf, hpoints,
    Option.bind_some, BinaryNumber.ofListText?_listText, Option.getD_some,
    ← c.numbers_canonical, numbers, ofNumbers_flatMap]
  rfl

theorem isWritten_toNode (c : RingCoordinates) :
    c.IsWritten s (c.fragment.toNode s) := by
  have htokens : tokensOf (BinaryNumber.listText c.numbers) =
      c.points.flatMap (fun p => [p.u.text, p.v.text]) := by
    rw [BinaryNumber.tokensOf_listText, numbers, List.map_flatMap]
    rfl
  have hlength : (c.points.flatMap fun p => [p.u.text, p.v.text]).length =
      2 * c.points.length := by
    induction c.points with
    | nil => rfl
    | cons p rest ih =>
        rw [List.flatMap_cons, List.length_append, ih, List.length_cons,
          List.length_cons, List.length_cons, List.length_nil]
        omega
  refine ⟨_, htokens, htokens ▸ hlength, ?_⟩
  rw [fragment, c.text_eq]
  rfl

end RingCoordinates

namespace Texture

/-- The elements in front of the target of a texture. -/
theorem fragments_eq (t : Texture) :
    t.fragments = Fragment.optionalText "imageURI" .appearance t.url ++
      (.textElement "wrapMode" .appearance t.wrapMode.text ::
        t.parameters.flatMap Parameter.fragments) := by
  have hborder : t.parameters.flatMap Parameter.fragments =
      if t.borderColor.isZero then []
      else [.textElement "borderColor" .appearance t.borderColor.text] := by
    rw [parameters, List.flatMap_singleton, Parameter.fragments,
      t.borderColor.text_eq, t.borderColor.isZero_eq]
    rfl
  rw [fragments, hborder, List.append_assoc, List.singleton_append]

theorem names_parameters (t : Texture) :
    t.parameters.map Parameter.name = ["borderColor"] := rfl

theorem distinct_parameters (t : Texture) :
    Parameter.Distinct t.parameters where
  plain := by
    rw [names_parameters]
    decide
  nodup := by
    rw [names_parameters]
    decide

theorem isOther_fragments (t : Texture) {wanted : String}
    (h : wanted ∉ ["imageURI", "wrapMode", "borderColor"]) :
    ∀ fragment ∈ t.fragments, Fragment.IsOther wanted fragment := by
  rw [List.mem_cons, List.mem_cons, not_or, not_or, ← names_parameters t] at h
  obtain ⟨himage, hmode, hborder⟩ := h
  rw [fragments_eq]
  refine List.forall_mem_append.mpr ⟨?_, List.forall_mem_cons.mpr ⟨?_, ?_⟩⟩
  · exact Fragment.isOther_optionalText ⟨by decide, Ne.symm himage⟩ _ _
  · exact ⟨by decide, Ne.symm hmode⟩
  · exact t.distinct_parameters.isOther hborder

variable {rest : List Fragment}

theorem textAt?_url (t : Texture)
    (h : Node.textAt? ["imageURI"] (Fragment.toNodes s rest) = none) :
    (Node.textAt? ["imageURI"]
      (Fragment.toNodes s (t.fragments ++ rest))).getD "" = t.url := by
  have hborder : "imageURI" ∉ t.parameters.map Parameter.name := by
    rw [names_parameters]
    decide
  have hmore : Node.textAt? ["imageURI"] (Fragment.toNodes s
      (.textElement "wrapMode" .appearance t.wrapMode.text ::
        (t.parameters.flatMap Parameter.fragments ++ rest))) = none := by
    rw [Fragment.textElement, Fragment.textAt?_toNodes_cons s (by decide),
      if_neg (by decide), Fragment.textAt?_append_of_isOther s
        (t.distinct_parameters.isOther hborder), h]
  rw [fragments_eq, List.append_assoc, List.cons_append,
    Fragment.optionalText]
  split
  · rename_i hempty
    rw [List.nil_append, hmore, String.isEmpty_iff.mp hempty]
    rfl
  · rw [List.singleton_append, Fragment.textElement,
      Fragment.textAt?_toNodes_cons s (by decide), if_pos rfl,
      Fragment.textAt?_toNodes_text]
    rfl

theorem textAt?_wrapMode (t : Texture) :
    Node.textAt? ["wrapMode"] (Fragment.toNodes s (t.fragments ++ rest)) =
      some t.wrapMode.text := by
  rw [fragments_eq, List.append_assoc, Fragment.textAt?_append_of_isOther s
      (Fragment.isOther_optionalText (by decide) _ _), List.cons_append,
    Fragment.textElement, Fragment.textAt?_toNodes_cons s (by decide),
    if_pos rfl, Fragment.textAt?_toNodes_text]

theorem numbersOf_borderColor (t : Texture)
    (h : Node.textAt? ["borderColor"] (Fragment.toNodes s rest) = none) :
    Parameter.numbersOf "borderColor" 4
        (Fragment.toNodes s (t.fragments ++ rest)) =
      normalNumbers t.borderColor.channels := by
  have hskip : Node.textAt? ["borderColor"]
      (Fragment.toNodes s (t.fragments ++ rest)) =
      Node.textAt? ["borderColor"] (Fragment.toNodes s
        (t.parameters.flatMap Parameter.fragments ++ rest)) := by
    rw [fragments_eq, List.append_assoc, Fragment.textAt?_append_of_isOther s
        (Fragment.isOther_optionalText (by decide) _ _), List.cons_append,
      Fragment.textElement, Fragment.textAt?_toNodes_cons s (by decide),
      if_neg (by decide)]
  rw [Parameter.numbersOf, hskip]
  exact Parameter.numbersOf_toNodes s t.distinct_parameters
    List.mem_cons_self h

end Texture

namespace TextureBinding

/-- The element for the target of a texture. -/
def targetFragment (b : TextureBinding) : Fragment :=
  .element "target" .appearance [("uri", localReference b.target)]
    b.coordinateFragments

/-- The elements of a texture and its target. -/
def content (b : TextureBinding) : List Fragment :=
  b.texture.fragments ++ [b.targetFragment]

theorem contentAt_fragment (b : TextureBinding) :
    Node.contentAt ["surfaceDataMember", "ParameterizedTexture"]
      [b.fragment.toNode s] = Fragment.toNodes s b.content := by
  rw [fragment, Fragment.wrap, Node.contentAt,
    Fragment.contentOf_toNode s (by decide), Fragment.wrap, Node.contentAt,
    Fragment.contentOf_toNodes_cons s (by decide), if_pos rfl, Node.contentAt,
    content, targetFragment]

theorem textAt?_target (b : TextureBinding) {wanted : String}
    (h : "target" ≠ wanted) (path : List String) :
    Node.textAt? (wanted :: path) (Fragment.toNodes s [b.targetFragment]) =
      none := by
  rw [targetFragment, Fragment.textAt?_toNodes_cons s (by decide), if_neg h]
  exact Fragment.textAt?_toNodes_nil s _

theorem attributesOf_target (b : TextureBinding) :
    Node.attributesOf "target" (Fragment.toNodes s b.content) =
      [("uri", localReference b.target)].foldl
        (fun l a => setAttribute a.1 a.2 l) [] := by
  rw [content, Fragment.attributesOf_append_of_isOther s
      (b.texture.isOther_fragments (by decide)), targetFragment,
    Fragment.attributesOf_toNodes_cons s (by decide), if_pos rfl]

theorem contentAt_target (b : TextureBinding) :
    Node.contentAt ["target", "TexCoordList"]
        (Fragment.toNodes s b.content) =
      Fragment.toNodes s (b.coordinates.map RingCoordinates.fragment) := by
  rw [content, Node.contentAt, Fragment.contentOf_append_of_isOther s
      (b.texture.isOther_fragments (by decide)), targetFragment,
    Fragment.contentOf_toNodes_cons s (by decide), if_pos rfl,
    coordinateFragments]
  cases b.coordinates with
  | nil => rfl
  | cons c rest =>
      rw [List.isEmpty_cons, if_neg (by decide), Fragment.wrap, Node.contentAt,
        Fragment.contentOf_toNodes_cons s (by decide), if_pos rfl,
        Node.contentAt]

/-- Reading the element for a texture and its target gives the normal form of
the binding. -/
theorem ofNode_toNode (b : TextureBinding) :
    ofNode (b.fragment.toNode s) = b.normal := by
  have hrings : (Fragment.toNodes s
      (b.coordinates.map RingCoordinates.fragment)).map
        RingCoordinates.ofNode =
      b.coordinates.map RingCoordinates.canonical := by
    rw [Fragment.toNodes_eq_map, List.map_map, List.map_map]
    exact List.map_congr_left fun c _ => c.ofNode_toNode s
  have hurl := b.texture.textAt?_url s (b.textAt?_target s (by decide) [])
  have hborder := b.texture.numbersOf_borderColor s
    (b.textAt?_target s (by decide) [])
  rw [← content] at hurl hborder
  have hmode : Node.textAt? ["wrapMode"] (Fragment.toNodes s b.content) =
      some b.texture.wrapMode.text := b.texture.textAt?_wrapMode s
  simp only [ofNode, contentAt_fragment, attributesOf_target,
    referenced_localReference, contentAt_target, hrings, hurl, hmode, hborder,
    Option.getD_some, WrapMode.ofText_text]
  rfl

end TextureBinding

/-! ## Normal forms and elements -/

namespace MaterialBinding

theorem parameters_normal (b : MaterialBinding) :
    b.normal.material.parameters =
      b.material.parameters.map Parameter.normal := by
  simp only [Material.parameters, normal, Color.channels_normal,
    Single.singleton_normal]
  rfl

/-- A binding of a material is written like its normal form. -/
theorem fragment_normal (b : MaterialBinding) :
    b.normal.fragment = b.fragment := by
  rw [fragment, fragment, Material.fragment_eq, Material.fragment_eq,
    Material.content, Material.content, parameters_normal,
    Parameter.flatMap_fragments_normal]
  rfl

theorem toNode_eq_iff_normal_eq (a b : MaterialBinding) :
    a.fragment.toNode s = b.fragment.toNode s ↔ a.normal = b.normal := by
  refine ⟨fun h => ?_, fun h => ?_⟩
  · rw [← ofNode_toNode s a, h, ofNode_toNode]
  · rw [← fragment_normal a, h, fragment_normal]

theorem isWritten_toNode (b : MaterialBinding) :
    b.IsWritten s (b.fragment.toNode s) := by
  refine ⟨_, _, Parameter.isWritten_toNodes s b.material.parameters, rfl, ?_⟩
  have hid : (Fragment.identity b.material.id).foldl
      (fun l a => setAttribute a.1 a.2 l) [] =
        if b.material.id.isEmpty then [] else [("gml:id", b.material.id)] := by
    rw [Fragment.identity]
    split <;> rfl
  have hmaterial : b.material.fragment.toNode s =
      .element (s.qualify "Material" .appearance)
        (if b.material.id.isEmpty then [] else [("gml:id", b.material.id)])
        (Fragment.toNodes s
            (b.material.parameters.flatMap Parameter.fragments) ++
          [b.material.smoothFragment.toNode s]) := by
    rw [Material.fragment_eq, Fragment.toNode, hid, Material.content,
      Fragment.toNodes_append]
    rfl
  rw [fragment, Fragment.wrap, Fragment.toNode, Fragment.toNodes, hmaterial]
  rfl

end MaterialBinding

namespace TextureBinding

theorem parameters_normal (b : TextureBinding) :
    b.normal.texture.parameters =
      b.texture.parameters.map Parameter.normal := by
  simp only [Texture.parameters, normal, ColorPlusOpacity.channels_normal]
  rfl

/-- A binding of a texture is written like its normal form. -/
theorem fragment_normal (b : TextureBinding) :
    b.normal.fragment = b.fragment := by
  have htexture : b.normal.texture.fragments = b.texture.fragments := by
    rw [Texture.fragments_eq, Texture.fragments_eq, parameters_normal,
      Parameter.flatMap_fragments_normal]
    rfl
  have hrings : b.normal.coordinates.map RingCoordinates.fragment =
      b.coordinates.map RingCoordinates.fragment := by
    rw [normal, List.map_map]
    exact List.map_congr_left fun c _ => c.fragment_canonical
  have hnone : b.normal.coordinates.isEmpty = b.coordinates.isEmpty := by
    rw [normal, List.isEmpty_map]
  rw [fragment, fragment, htexture, coordinateFragments, coordinateFragments,
    hrings, hnone]
  rfl

theorem toNode_eq_iff_normal_eq (a b : TextureBinding) :
    a.fragment.toNode s = b.fragment.toNode s ↔ a.normal = b.normal := by
  refine ⟨fun h => ?_, fun h => ?_⟩
  · rw [← ofNode_toNode s a, h, ofNode_toNode]
  · rw [← fragment_normal a, h, fragment_normal]

theorem isWritten_toNode (b : TextureBinding) :
    b.IsWritten s (b.fragment.toNode s) := by
  refine ⟨Fragment.toNodes s (Fragment.optionalText "imageURI" .appearance
      b.texture.url), _, _,
    Fragment.toNodes s (b.coordinates.map RingCoordinates.fragment), ?_, rfl,
    Parameter.isWritten_toNodes s b.texture.parameters, ?_, ?_⟩
  · rw [Fragment.optionalText]
    by_cases hurl : b.texture.url = ""
    · rw [if_pos hurl, if_pos (String.isEmpty_iff.mpr hurl)]
      exact .nil
    · rw [if_neg hurl, if_neg (mt String.isEmpty_iff.mp hurl)]
      exact .cons rfl .nil
  · rw [Fragment.toNodes_eq_map, List.map_map, List.forall₂_map_right_iff,
      List.forall₂_same]
    exact fun c _ => c.isWritten_toNode s
  · have hlist : Fragment.toNodes s b.coordinateFragments =
        if b.coordinates = [] then []
        else [.element (s.qualify "TexCoordList" .appearance) []
          (Fragment.toNodes s
            (b.coordinates.map RingCoordinates.fragment))] := by
      rw [coordinateFragments]
      cases b.coordinates with
      | nil => rfl
      | cons c rest => rfl
    rw [fragment, Fragment.wrap, Fragment.toNode, Fragment.toNodes,
      Fragment.wrap, Fragment.toNode, Fragment.toNodes_append,
      Texture.fragments_eq, Fragment.toNodes_append, ← hlist]
    simp only [List.append_assoc]
    rfl

end TextureBinding

/-- Writing a material or a texture with its target adds one element to an open
document.  It shows the parameters that are not zero in their fixed order, where
nothing but zero with either sign counts as zero, and the texture points of each
ring with two tokens for each, in a list that is there only if some ring has a
record.  Reading it gives the normal form of the binding, so two bindings have
the same element if and only if their normal forms agree; the themes of a
material and the identifier of a texture and whether it repeats do not matter. -/
theorem Builder.addSurfaceData_readBack (s : Settings) :
    ∃ (material : MaterialBinding → Node) (texture : TextureBinding → Node),
      (∀ b, Adds (addMaterialBinding b) s () [material b] [] ∧
        b.IsWritten s (material b) ∧
        MaterialBinding.ofNode (material b) = b.normal) ∧
      (∀ a b, material a = material b ↔ a.normal = b.normal) ∧
      (∀ b, Adds (addTextureBinding b) s () [texture b] [] ∧
        b.IsWritten s (texture b) ∧
        TextureBinding.ofNode (texture b) = b.normal) ∧
      (∀ a b, texture a = texture b ↔ a.normal = b.normal) ∧
      (∀ ps : List Parameter, List.Sublist (Parameter.shown ps) ps ∧
        ∀ p, p ∈ Parameter.shown ps ↔ p ∈ ps ∧
          ∃ x ∈ p.numbers, x ≠ .zero ∧ x ≠ ⟨true, 0, Nat.two_pow_pos _⟩) ∧
      (∀ (b : MaterialBinding) (themes : List String),
        addMaterialBinding { b with material.themes := themes } =
          addMaterialBinding b) ∧
      ∀ (b : TextureBinding) (id : String) (repeats : Bool),
        addTextureBinding
          { b with texture.id := id, texture.repeats := repeats } =
          addTextureBinding b := by
  refine ⟨fun b => b.fragment.toNode s, fun b => b.fragment.toNode s,
    fun b => ⟨?_, b.isWritten_toNode s, b.ofNode_toNode s⟩,
    MaterialBinding.toNode_eq_iff_normal_eq s,
    fun b => ⟨?_, b.isWritten_toNode s, b.ofNode_toNode s⟩,
    TextureBinding.toNode_eq_iff_normal_eq s,
    fun ps => ⟨List.filter_sublist, Parameter.mem_shown ps⟩,
    fun b themes => rfl, fun b id repeats => rfl⟩
  · rw [addMaterialBinding_eq]
    exact adds_insert s b.fragment
  · rw [addTextureBinding_eq]
    exact adds_insert s b.fragment

end CityMarkup
