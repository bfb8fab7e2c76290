import CityMarkup.Appearance.Themed

/-!
# The targets of an object

The geometries and polygons that can carry bindings, in the order in which the
bindings are collected: the geometries of an object before the objects below
it, and a geometry before those nested in it, which come before its polygons.
Collecting is a fold over this list, and it finds nothing exactly when no
target carries a binding.
-/

namespace CityMarkup

mutual

/-- What is bound to a geometry, to those nested in it, and to its polygons. -/
def Geometry.targets : Geometry → List Bindings
  | ⟨_, _, _, polygons, _, children, appearance⟩ =>
    appearance :: (Geometry.allTargets children ++
      polygons.map Polygon.appearance)

/-- What is bound to the targets of some geometries. -/
def Geometry.allTargets : List Geometry → List Bindings
  | [] => []
  | g :: rest => g.targets ++ Geometry.allTargets rest

end

mutual

/-- What is bound to the targets of an object and of the objects below it. -/
def CityObject.targets : CityObject → List Bindings
  | ⟨_, _, _, geometries, children, _, _, _⟩ =>
    Geometry.allTargets geometries ++ CityObject.allTargets children

/-- What is bound to the targets of some objects. -/
def CityObject.allTargets : List CityObject → List Bindings
  | [] => []
  | o :: rest => o.targets ++ CityObject.allTargets rest

end

namespace ThemedAppearances

/-! ## Collecting is a fold -/

mutual

theorem addGeometry_eq_foldl :
    ∀ (t : ThemedAppearances) (g : Geometry),
      t.addGeometry g = g.targets.foldl addTarget t
  | t, ⟨_, _, _, polygons, _, children, appearance⟩ => by
    rw [addGeometry, Geometry.targets, List.foldl_cons, List.foldl_append,
      addGeometries_eq_foldl _ children]

theorem addGeometries_eq_foldl :
    ∀ (t : ThemedAppearances) (gs : List Geometry),
      t.addGeometries gs = (Geometry.allTargets gs).foldl addTarget t
  | _, [] => rfl
  | t, g :: rest => by
    rw [addGeometries, Geometry.allTargets, List.foldl_append,
      addGeometry_eq_foldl t g, addGeometries_eq_foldl _ rest]

end

mutual

theorem addObject_eq_foldl :
    ∀ (t : ThemedAppearances) (o : CityObject),
      t.addObject o = o.targets.foldl addTarget t
  | t, ⟨_, _, _, geometries, children, _, _, _⟩ => by
    rw [addObject, CityObject.targets, List.foldl_append,
      addGeometries_eq_foldl, addObjects_eq_foldl _ children]

theorem addObjects_eq_foldl :
    ∀ (t : ThemedAppearances) (os : List CityObject),
      t.addObjects os = (CityObject.allTargets os).foldl addTarget t
  | _, [] => rfl
  | t, o :: rest => by
    rw [addObjects, CityObject.allTargets, List.foldl_append,
      addObject_eq_foldl t o, addObjects_eq_foldl _ rest]

end

theorem collect_eq_foldl (o : CityObject) :
    collect o = o.targets.foldl addTarget empty :=
  addObject_eq_foldl empty o

/-! ## When nothing is found -/

theorem isEmpty_place {α : Type} (key : String) (value : α)
    (entries : List (String × α)) :
    (Dictionary.place key value entries).isEmpty = false := by
  cases entries with
  | nil => rfl
  | cons first rest =>
      rw [Dictionary.place]
      split
      · rfl
      · split
        · rfl
        · rfl

theorem isEmpty_push {α : Type} (d : Dictionary (List α)) (key : String)
    (value : α) : (d.push key value).isEmpty = false :=
  isEmpty_place _ _ _

theorem isEmpty_pushAll {α : Type} (d : Dictionary (List α))
    (added : Dictionary α) :
    (d.pushAll added).isEmpty = (d.isEmpty && added.isEmpty) := by
  have hfold : ∀ (entries : List (String × α)) (d : Dictionary (List α)),
      (entries.foldl (fun d entry => d.push entry.1 entry.2) d).isEmpty =
        (d.isEmpty && entries.isEmpty) := by
    intro entries
    induction entries with
    | nil =>
        intro d
        simp
    | cons entry rest ih =>
        intro d
        rw [List.foldl_cons, ih, isEmpty_push]
        simp
  exact hfold added.entries d

theorem isEmpty_addTarget (t : ThemedAppearances) (b : Bindings) :
    (t.addTarget b).isEmpty = (t.isEmpty && b.isEmpty) := by
  simp only [isEmpty, addTarget, isEmpty_pushAll, Bindings.isEmpty,
    Sided.isEmpty]
  ac_rfl

theorem isEmpty_foldl_addTarget (targets : List Bindings)
    (t : ThemedAppearances) :
    (targets.foldl addTarget t).isEmpty =
      (t.isEmpty && targets.all Bindings.isEmpty) := by
  induction targets generalizing t with
  | nil => simp
  | cons b rest ih =>
      rw [List.foldl_cons, ih, isEmpty_addTarget, List.all_cons,
        Bool.and_assoc]

/-- Nothing is collected exactly when no target carries a binding. -/
theorem isEmpty_collect (o : CityObject) :
    (collect o).isEmpty = o.targets.all Bindings.isEmpty := by
  rw [collect_eq_foldl, isEmpty_foldl_addTarget]
  rfl

end ThemedAppearances

end CityMarkup
