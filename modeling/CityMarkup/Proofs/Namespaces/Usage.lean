import CityMarkup.CityModel.Document

/-!
# The namespaces found before writing

The walk before writing declares a namespace exactly if it belongs to those
that every document declares, or if some object at some depth needs it.  What
an object needs depends on its type, on whether there are objects below it,
and on whether it has an address.  Which schemas it names depends on the types
of the objects alone.
-/

namespace CityMarkup

namespace CityObject

/-- The namespaces that an object needs, apart from the objects below it. -/
def needs (o : CityObject) (ns : Namespace) : Bool :=
  ns == o.type.thematicModule ||
    (ns == .building && (!o.children.isEmpty || o.address.isSome)) ||
    (ns == .xal && o.address.isSome)

mutual

/-- An object and all objects below it, each before those below it. -/
def subtree : CityObject → List CityObject
  | object@⟨_, _, _, _, children, _, _, _⟩ => object :: forest children

/-- The objects of a list and all objects below them. -/
def forest : List CityObject → List CityObject
  | [] => []
  | o :: rest => o.subtree ++ forest rest

end

theorem subtree_eq (o : CityObject) : o.subtree = o :: forest o.children := by
  cases o
  rw [subtree]

theorem forest_eq_flatMap (os : List CityObject) :
    forest os = os.flatMap subtree := by
  induction os with
  | nil => rfl
  | cons o rest ih => rw [forest, ih, List.flatMap_cons]

theorem mem_subtree_self (o : CityObject) : o ∈ o.subtree := by
  rw [subtree_eq]
  exact List.mem_cons_self

end CityObject

namespace NamespaceUsage

/-! ## The walk -/

/-- Adds what an object asks for, apart from the objects below it. -/
def visit (u : NamespaceUsage) (o : CityObject) : NamespaceUsage :=
  u.addObject o.type (!o.children.isEmpty) o.address.isSome

mutual

theorem addTree_eq_foldl :
    ∀ (u : NamespaceUsage) (o : CityObject),
      u.addTree o = o.subtree.foldl visit u
  | u, ⟨id, type, attributes, geometries, children, address, reference,
      coverage⟩ => by
    rw [addTree, addForest_eq_foldl _ children, CityObject.subtree,
      List.foldl_cons]
    rfl

theorem addForest_eq_foldl :
    ∀ (u : NamespaceUsage) (os : List CityObject),
      addForest u os = (CityObject.forest os).foldl visit u
  | u, [] => rfl
  | u, o :: rest => by
    rw [addForest, addForest_eq_foldl _ rest, addTree_eq_foldl u o,
      CityObject.forest, List.foldl_append]

end

/-- What is found in a list is what there was before and what some member of
the list adds. -/
theorem contains_foldl {α : Type} {found : NamespaceUsage → NamespaceSet}
    {step : NamespaceUsage → α → NamespaceUsage} {adds : α → Bool}
    {ns : Namespace}
    (h : ∀ u a, (found (step u a)).contains ns =
      ((found u).contains ns || adds a))
    (l : List α) (u : NamespaceUsage) :
    (found (l.foldl step u)).contains ns =
      ((found u).contains ns || l.any adds) := by
  induction l generalizing u with
  | nil => simp
  | cons a rest ih =>
      rw [List.foldl_cons, ih, h, List.any_cons, Bool.or_assoc]

theorem contains_namespaces_visit (ns : Namespace) (u : NamespaceUsage)
    (o : CityObject) :
    (u.visit o).namespaces.contains ns =
      (u.namespaces.contains ns || o.needs ns) := by
  rw [visit, addObject, CityObject.needs]
  cases o.children.isEmpty <;> cases o.address.isSome <;>
    simp [declare, nameSchema] <;> ac_rfl

theorem contains_schemaLocations_visit (ns : Namespace) (u : NamespaceUsage)
    (o : CityObject) :
    (u.visit o).schemaLocations.contains ns =
      (u.schemaLocations.contains ns || ns == o.type.thematicModule) := by
  rw [visit, addObject]
  cases o.children.isEmpty <;> cases o.address.isSome <;>
    simp [declare, nameSchema, Bool.or_comm]

theorem contains_namespaces_declare (ns : Namespace) (u : NamespaceUsage)
    (added : Namespace) :
    (u.declare added).namespaces.contains ns =
      (u.namespaces.contains ns || ns == added) := by
  rw [declare, NamespaceSet.contains_insert, Bool.or_comm]

theorem schemaLocations_foldl_declare (l : List Namespace)
    (u : NamespaceUsage) :
    (l.foldl declare u).schemaLocations = u.schemaLocations := by
  induction l generalizing u with
  | nil => rfl
  | cons added rest ih => exact ih (u.declare added)

/-- The walk finds the namespaces that every document declares and those that
some object needs, and no others. -/
theorem contains_collect (m : CityModel) (ns : Namespace) :
    (collect m).namespaces.contains ns =
      (always.contains ns ||
        (CityObject.forest m.objects).any fun p => p.needs ns) := by
  have hforest := contains_foldl (contains_namespaces_visit ns)
    (CityObject.forest m.objects) ⟨.empty, .empty⟩
  have halways := contains_foldl (contains_namespaces_declare ns) always
    (addForest ⟨.empty, .empty⟩ m.objects)
  rw [addForest_eq_foldl, hforest, NamespaceSet.contains_empty,
    Bool.false_or, ← List.contains_eq_any_beq, Bool.or_comm,
    ← addForest_eq_foldl] at halways
  exact halways

/-- The schemas that are named are those of the generic and the appearance
module and those of the modules of the objects. -/
theorem contains_schemaLocations_collect (m : CityModel) (ns : Namespace) :
    (collect m).schemaLocations.contains ns =
      (ns == .generics || ns == .appearance ||
        (CityObject.forest m.objects).any fun p =>
          ns == p.type.thematicModule) := by
  have hforest := contains_foldl (contains_schemaLocations_visit ns)
    (CityObject.forest m.objects) ⟨.empty, .empty⟩
  simp only [collect, nameSchema, NamespaceSet.contains_insert]
  rw [schemaLocations_foldl_declare, addForest_eq_foldl, hforest,
    NamespaceSet.contains_empty, Bool.false_or, ← Bool.or_assoc]
  ac_rfl

end NamespaceUsage

/-! ## The settings of the document -/

namespace Namespace

theorem abbreviation_isSome {ns : Namespace} (h : ns ≠ .cityGml) :
    ns.abbreviation.isSome = true := by
  cases ns <;> first | rfl | exact absurd rfl h

theorem abbreviation_injective {a b : Namespace} {short : String}
    (ha : a.abbreviation = some short) (hb : b.abbreviation = some short) :
    a = b := by
  have key : ∀ a ∈ all, ∀ b ∈ all, a.abbreviation.isSome = true →
      a.abbreviation = b.abbreviation → a = b := by
    decide +kernel
  exact key a (mem_all a) b (mem_all b) (by rw [ha]; rfl) (by rw [ha, hb])

end Namespace

namespace Settings

theorem contains_foldl_declare (ns : Namespace) (l : List Namespace)
    (s : Settings) :
    (l.foldl declare s).namespaces.contains ns =
      (s.namespaces.contains ns ||
        (ns.abbreviation.isSome && l.contains ns)) := by
  induction l generalizing s with
  | nil => simp
  | cons added rest ih =>
      rw [List.foldl_cons, ih, List.contains_cons]
      by_cases hadded : ns = added
      · subst hadded
        cases hshort : ns.abbreviation.isSome <;> simp [declare, hshort]
      · have hne : (ns == added) = false := by simpa using hadded
        rw [hne, Bool.false_or, declare]
        split
        · rw [NamespaceSet.contains_insert, hne, Bool.false_or]
        · rfl

end Settings

namespace CityModel

theorem contains_namespaces_settings (o : Options) (m : CityModel)
    (ns : Namespace) :
    (m.settings o).namespaces.contains ns =
      (ns.abbreviation.isSome &&
        (NamespaceUsage.collect m).namespaces.contains ns) := by
  have hfold := Settings.contains_foldl_declare ns
    (NamespaceUsage.collect m).declarations Settings.initial
  have hinitial : Settings.initial.namespaces.contains ns = false := rfl
  rw [hinitial, Bool.false_or] at hfold
  change (NamespaceSet.contains _ ns) = _
  rw [settings, hfold, NamespaceUsage.declarations, NamespaceSet.contains]
  cases hshort : ns.abbreviation.isSome <;>
    simp [List.contains_eq_mem, List.mem_filter, hshort]

/-- Apart from the default namespace, a document declares the namespaces that
every document declares and those that some object needs. -/
theorem isDeclared_settings (o : Options) (m : CityModel) {ns : Namespace}
    (h : ns ≠ .cityGml) :
    (m.settings o).isDeclared ns =
      (NamespaceUsage.always.contains ns ||
        (CityObject.forest m.objects).any fun p => p.needs ns) := by
  have hne : (ns == .cityGml) = false := by simpa using h
  rw [Settings.isDeclared, hne, Bool.false_or, contains_namespaces_settings,
    Namespace.abbreviation_isSome h, Bool.true_and,
    NamespaceUsage.contains_collect]

end CityModel

end CityMarkup
