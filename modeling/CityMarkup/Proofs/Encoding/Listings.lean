import CityMarkup.Document.Fragment

/-!
# Listings of fragments

What is entered for fragments in the order of the document is entered for one
fragment after the other.  A listing of this sort is known from what it has for
single fragments.
-/

namespace CityMarkup

namespace Fragment

/-- Whether the entries for some fragments are those for one fragment after the
other. -/
structure Lists {β : Type} (list : List Fragment → List β) : Prop where
  nil : list [] = []
  append : ∀ first second, list (first ++ second) = list first ++ list second

namespace Lists

variable {α β : Type} {list : List Fragment → List β}

theorem cons (h : Lists list) (fragment : Fragment) (rest : List Fragment) :
    list (fragment :: rest) = list [fragment] ++ list rest :=
  h.append [fragment] rest

theorem flatMap (h : Lists list) (f : α → List Fragment) (l : List α) :
    list (l.flatMap f) = l.flatMap fun a => list (f a) := by
  induction l with
  | nil => exact h.nil
  | cons a rest ih =>
      rw [List.flatMap_cons, h.append, ih, List.flatMap_cons]

theorem map (h : Lists list) (f : α → Fragment) (l : List α) :
    list (l.map f) = l.flatMap fun a => list [f a] := by
  rw [List.map_eq_flatMap, h.flatMap]

theorem map_eq_nil (h : Lists list) {f : α → Fragment}
    (hnil : ∀ a, list [f a] = []) (l : List α) : list (l.map f) = [] := by
  rw [h.map, List.flatMap_eq_nil_iff]
  exact fun a _ => hnil a

end Lists

end Fragment

end CityMarkup
