import CityMarkup.Proofs.Document.Replay
import CityMarkup.Proofs.Encoding.Insertion

/-!
# Actions composed of calls

An encoder touches a builder through calls only.  Between them it may look at
the builder and give notices.  Whatever holds of calls and survives composition
therefore holds of all encoders, and no encoder has to be opened for it again.
-/

namespace CityMarkup

namespace Builder

/-- Actions that touch a builder through calls only. -/
inductive Composed : {α : Type} → Action Builder α → Prop where
  | pure {α : Type} (a : α) : Composed (pure a)
  | note (notices : List Notice) : Composed (.note notices)
  | call (call : Call) : Composed call.action
  | look {α : Type} {f : Builder → Action Builder α}
      (h : ∀ b, Composed (f b)) : Composed (.withState f)
  | bind {α β : Type} {x : Action Builder α} {f : α → Action Builder β}
      (hx : Composed x) (hf : ∀ a, Composed (f a)) : Composed (x >>= f)

namespace Composed

theorem seq {β : Type} {x : Action Builder Unit} {y : Action Builder β}
    (hx : Composed x) (hy : Composed y) : Composed (do x; y) :=
  hx.bind fun _ => hy

theorem when {x : Action Builder Unit} (hx : Composed x) (condition : Bool) :
    Composed (.when condition x) := by
  cases condition with
  | false => exact .pure ()
  | true => exact hx

theorem forM {α : Type} {f : α → Action Builder Unit}
    (h : ∀ a, Composed (f a)) (l : List α) : Composed (l.forM f) := by
  induction l with
  | nil => exact .pure ()
  | cons a rest ih => exact (h a).seq ih

end Composed

/-! ## Fragments -/

theorem composed_startElement (name : String) (ns : Namespace) :
    Composed (startElement name ns) :=
  .call (.start name ns)

theorem composed_endElement : Composed endElement :=
  .call .finish

theorem composed_writeTextElement (name : String) (ns : Namespace)
    (value : String) : Composed (writeTextElement name ns value) :=
  .call (.textElement name ns value)

theorem composed_writeAttributes (attributes : List (String × String)) :
    Composed (writeAttributes attributes) := by
  induction attributes with
  | nil => exact .pure ()
  | cons first rest ih =>
      exact (Composed.call (.set first.1 first.2)).seq ih

mutual

theorem composed_insert : ∀ fragment : Fragment, Composed (insert fragment)
  | .text value => by
    rw [insert]
    exact .call (.text value)
  | .element name ns attributes content => by
    rw [insert]
    exact (composed_startElement name ns).seq
      ((composed_writeAttributes attributes).seq
        ((composed_insertAll content).seq composed_endElement))

theorem composed_insertAll :
    ∀ fragments : List Fragment, Composed (insertAll fragments)
  | [] => by
    rw [insertAll]
    exact .pure ()
  | fragment :: rest => by
    rw [insertAll]
    exact (composed_insert fragment).seq (composed_insertAll rest)

end

theorem composed_of_eq_insert {x : Action Builder Unit} {fragment : Fragment}
    (h : x = insert fragment) : Composed x := by
  rw [h]
  exact composed_insert fragment

/-! ## Encoders -/

theorem composed_addAttribute (generic : Bool)
    (entry : String × AttributeValue) :
    Composed (addAttribute generic entry) := by
  apply Composed.look
  intro b
  simp only
  split
  · exact composed_writeTextElement _ _ _
  · exact (composed_of_eq_insert (addGenericAttribute_eq _ _)).when generic

theorem composed_addAttributes (attributes : Attributes) (generic : Bool) :
    Composed (addAttributes attributes generic) :=
  .forM (composed_addAttribute generic) attributes.entries

theorem composed_addOnce {α : Type} (key : α → String)
    {add : α → Action Builder Unit} (h : ∀ a, Composed (add a))
    (repetition : α → Notice) (items : List α) (known : List String) :
    Composed (addOnce key add repetition known items) := by
  induction items generalizing known with
  | nil => exact .pure known
  | cons item rest ih =>
      rw [addOnce]
      split
      · exact (Composed.note _).seq (ih known)
      · exact (h item).seq (ih (key item :: known))

theorem composed_addAppearances (object : CityObject) :
    Composed (addAppearances object) := by
  have hmaterial : ∀ b, Composed (addMaterialBinding b) :=
    fun b => composed_of_eq_insert (addMaterialBinding_eq b)
  have htexture : ∀ b, Composed (addTextureBinding b) :=
    fun b => composed_of_eq_insert (addTextureBinding_eq b)
  have hdata : ∀ t theme, Composed (addSurfaceData t theme) := by
    intro t theme
    refine (composed_addOnce _ hmaterial _ _ _).bind fun known => ?_
    exact (composed_addOnce _ htexture _ _ known).bind fun _ => .pure ()
  have htheme : ∀ t theme, Composed (addTheme t theme) := by
    intro t theme
    exact (composed_startElement _ _).seq
      ((composed_writeTextElement _ _ theme).seq
        ((hdata t theme).seq composed_endElement))
  rw [addAppearances, addThemes]
  apply Composed.when
  exact (composed_startElement _ _).seq
    ((Composed.forM (htheme _) _).seq composed_endElement)

theorem composed_addPlaced (o : Options) (type : FeatureType)
    (objectId : String) (g : Geometry) :
    Composed (addPlaced o type objectId g) := by
  rw [addPlaced]
  split
  · exact (composed_startElement _ _).seq
      ((composed_of_eq_insert (addGeometry_eq g)).seq composed_endElement)
  · exact .note _
  · exact .note _

mutual

theorem composed_addCityObject (o : Options) (isRoot : Bool) :
    ∀ object : CityObject, Composed (addCityObject o isRoot object)
  | ⟨id, type, attributes, geometries, children, address, reference,
      coverage⟩ => by
    have haddress : ∀ a, Composed (addObjectAddress a) :=
      fun a => composed_of_eq_insert (addObjectAddress_eq a)
    have hreference : ∀ r, Composed (addExternalReference r) :=
      fun r => composed_of_eq_insert (addExternalReference_eq r)
    have hcoverage : ∀ c, Composed (addCoverage c) :=
      fun c => composed_of_eq_insert (addCoverage_eq c)
    rw [addCityObject, writeIdentity_eq]
    refine (composed_startElement _ _).seq ?_
    refine (composed_writeAttributes _).seq ?_
    refine (composed_addAttributes attributes _).seq ?_
    refine ((composed_addAppearances _).when _).seq ?_
    refine (Composed.forM (composed_addPlaced o type id) geometries).seq ?_
    refine (composed_addChildren o children).seq ?_
    refine ((Composed.forM haddress _).when _).seq ?_
    refine (Composed.when ?_ _).seq composed_endElement
    exact (Composed.forM hreference _).seq (Composed.forM hcoverage _)

theorem composed_addChildren (o : Options) :
    ∀ children : List CityObject, Composed (addChildren o children)
  | [] => by
    rw [addChildren]
    exact .pure ()
  | child :: rest => by
    rw [addChildren]
    exact (composed_startElement _ _).seq
      ((composed_addCityObject o false child).seq
        (composed_endElement.seq (composed_addChildren o rest)))

end

end Builder

end CityMarkup
