import CityMarkup.Proofs.Appearance.Visit
import CityMarkup.Proofs.Encoding.Runs

/-!
# Balance of the encoders

An encoder closes every element that it opens, on every path.  What it leaves
in the document are complete elements behind those that were there before, and
their number is known: one for an encoder of one thing, one for each attribute
that is written, and one for appearances if there are any.
-/

namespace CityMarkup

namespace Builder

/-- On every open document with the given settings the action succeeds, adds
so many elements and no text to the innermost element, and changes nothing
else. -/
def AddsElements (x : Action Builder Unit) (s : Settings) (count : Nat) :
    Prop :=
  ∃ nodes notices, Adds x s () nodes notices ∧ nodes.length = count ∧
    ∀ node ∈ nodes, node.isElement = true

/-! ## Counting added elements -/

section Counting

variable {s : Settings} {x : Action Builder Unit}

theorem addsElements_of_eq_insert {name : String} {ns : Namespace}
    {attributes : List (String × String)} {content : List Fragment}
    (h : x = insert (.element name ns attributes content)) :
    AddsElements x s 1 := by
  refine ⟨[(Fragment.element name ns attributes content).toNode s], [], ?_,
    rfl, ?_⟩
  · rw [h]
    exact adds_insert s _
  · intro node hnode
    rw [List.mem_singleton.mp hnode]
    rfl

theorem AddsElements.seq {y : Action Builder Unit} {m n : Nat}
    (hx : AddsElements x s m) (hy : AddsElements y s n) :
    AddsElements (do x; y) s (m + n) := by
  obtain ⟨nodes, notices, hadds, hlength, helements⟩ := hx
  obtain ⟨more, after, hadds', hlength', helements'⟩ := hy
  refine ⟨nodes ++ more, notices ++ after, hadds.seq hadds', ?_, ?_⟩
  · rw [List.length_append, hlength, hlength']
  · intro node hnode
    rcases List.mem_append.mp hnode with h | h
    · exact helements node h
    · exact helements' node h

theorem addsElements_forM {α : Type} {f : α → Action Builder Unit}
    {p : α → Bool} (h : ∀ a, AddsElements (f a) s (if p a then 1 else 0))
    (l : List α) : AddsElements (l.forM f) s (l.countP p) := by
  induction l with
  | nil => exact ⟨[], [], adds_pure (), rfl, by simp⟩
  | cons a rest ih =>
      rw [List.countP_cons, Nat.add_comm]
      exact (h a).seq ih

end Counting

variable (s : Settings)

/-! ## Geometries, materials, textures and addresses -/

theorem addsElements_addGeometry (g : Geometry) :
    AddsElements (addGeometry g) s 1 := by
  apply addsElements_of_eq_insert
  rw [addGeometry_eq, Geometry.fragment_eq]

theorem addsElements_addPolygon (p : Polygon) :
    AddsElements (addPolygon p) s 1 :=
  addsElements_of_eq_insert (addPolygon_eq p)

theorem addsElements_addRing (r : Ring) : AddsElements (addRing r) s 1 :=
  addsElements_of_eq_insert (addRing_eq r)

theorem addsElements_addLine (l : Line) : AddsElements (addLine l) s 1 :=
  addsElements_of_eq_insert (addLine_eq l)

theorem addsElements_addMaterial (m : Material) :
    AddsElements (addMaterial m) s 1 :=
  addsElements_of_eq_insert (addMaterial_eq m)

theorem addsElements_addMaterialBinding (b : MaterialBinding) :
    AddsElements (addMaterialBinding b) s 1 :=
  addsElements_of_eq_insert (addMaterialBinding_eq b)

theorem addsElements_addTextureBinding (b : TextureBinding) :
    AddsElements (addTextureBinding b) s 1 :=
  addsElements_of_eq_insert (addTextureBinding_eq b)

theorem addsElements_addAddress (a : Address) :
    AddsElements (addAddress a) s 1 :=
  addsElements_of_eq_insert (addAddress_eq a)

/-! ## Attributes -/

theorem addsElements_addGenericAttribute (name : String)
    (value : AttributeValue) :
    AddsElements (addGenericAttribute name value) s 1 :=
  addsElements_of_eq_insert (addGenericAttribute_eq name value)

/-- Whether an attribute is written: as a property whose namespace is
declared, or else because generic attributes are wanted. -/
def writesAttribute (generic : Bool) (entry : String × AttributeValue) :
    Bool :=
  generic || (KnownAttribute.lookup? entry.1).any fun known =>
    s.isDeclared known.ns

theorem addsElements_addAttribute (generic : Bool)
    (entry : String × AttributeValue) :
    AddsElements (addAttribute generic entry) s
      (if writesAttribute s generic entry then 1 else 0) := by
  refine ⟨_, _, adds_addAttribute s generic entry, ?_, ?_⟩
  · rw [Fragment.toNodes_eq_map, List.length_map, writesAttribute,
      Attributes.entryFragments]
    cases KnownAttribute.lookup? entry.1 with
    | none => cases generic <;> rfl
    | some known =>
        cases hns : s.isDeclared known.ns with
        | true => simp [Option.filter, hns]
        | false => cases generic <;> simp [Option.filter, hns]
  · intro node hnode
    rw [Fragment.toNodes_eq_map, List.mem_map] at hnode
    obtain ⟨fragment, hmem, rfl⟩ := hnode
    rw [Attributes.entryFragments] at hmem
    split at hmem
    · rw [List.mem_singleton.mp hmem]
      rfl
    · cases generic with
      | false => cases hmem
      | true =>
          rw [if_pos rfl] at hmem
          rw [List.mem_singleton.mp hmem]
          rfl

theorem addsElements_addAttributes (attributes : Attributes)
    (generic : Bool) :
    AddsElements (addAttributes attributes generic) s
      (attributes.entries.countP (writesAttribute s generic)) :=
  addsElements_forM (addsElements_addAttribute s generic) attributes.entries

/-! ## Appearances and city objects -/

theorem addsElements_addAppearances (object : CityObject) :
    AddsElements (addAppearances object) s
      (if object.targets.all Bindings.isEmpty then 0 else 1) := by
  rw [← ThemedAppearances.isEmpty_collect]
  refine ⟨_, _, adds_addAppearances s object, ?_, ?_⟩
  · rw [Fragment.toNodes_eq_map, List.length_map,
      ThemedAppearances.fragments]
    split <;> rfl
  · intro node hnode
    rw [ThemedAppearances.fragments] at hnode
    split at hnode
    · cases hnode
    · rw [Fragment.toNodes_eq_map] at hnode
      rw [List.mem_singleton.mp hnode]
      rfl

theorem addsElements_addCityObject (o : Options) (isRoot : Bool)
    (object : CityObject) :
    AddsElements (addCityObject o isRoot object) s 1 := by
  refine ⟨_, _, adds_addCityObject s o isRoot object, rfl, ?_⟩
  intro node hnode
  rw [List.mem_singleton.mp hnode]
  cases object
  rfl

/-- Every encoder is balanced: on an open document, however deep and with
whatever settings, it succeeds, adds its elements at the end of the innermost
open element, and leaves everything else as it was. -/
theorem addsElements_encoders (s : Settings) :
    (∀ o isRoot object, AddsElements (addCityObject o isRoot object) s 1) ∧
    (∀ g, AddsElements (addGeometry g) s 1) ∧
    (∀ p, AddsElements (addPolygon p) s 1) ∧
    (∀ r, AddsElements (addRing r) s 1) ∧
    (∀ l, AddsElements (addLine l) s 1) ∧
    (∀ a, AddsElements (addAddress a) s 1) ∧
    (∀ name value, AddsElements (addGenericAttribute name value) s 1) ∧
    (∀ attributes generic, AddsElements (addAttributes attributes generic) s
      (attributes.entries.countP (writesAttribute s generic))) ∧
    (∀ m, AddsElements (addMaterial m) s 1) ∧
    (∀ b, AddsElements (addMaterialBinding b) s 1) ∧
    (∀ b, AddsElements (addTextureBinding b) s 1) ∧
    (∀ object, AddsElements (addAppearances object) s
      (if object.targets.all Bindings.isEmpty then 0 else 1)) := by
  refine ⟨?_, ?_, ?_, ?_, ?_, ?_, ?_, ?_, ?_, ?_, ?_, ?_⟩
  · exact addsElements_addCityObject s
  · exact addsElements_addGeometry s
  · exact addsElements_addPolygon s
  · exact addsElements_addRing s
  · exact addsElements_addLine s
  · exact addsElements_addAddress s
  · exact addsElements_addGenericAttribute s
  · exact addsElements_addAttributes s
  · exact addsElements_addMaterial s
  · exact addsElements_addMaterialBinding s
  · exact addsElements_addTextureBinding s
  · exact addsElements_addAppearances s

end Builder

end CityMarkup
