import CityMarkup.Proofs.Encoding.Runs
import Mathlib.Data.List.Forall2

/-!
# What nodes tell of fragments

The written name of an element tells its local name, and the attribute for an
identifier tells the identifier.  Elements are hence told apart by their names,
identifiers and contents, whatever namespaces are declared.
-/

namespace CityMarkup

/-- Equality of what two functions give on two lists, item by item. -/
theorem map_eq_map_iff_forall₂ {α β γ : Type} {f : α → γ} {g : β → γ}
    {l : List α} {l' : List β} :
    l.map f = l'.map g ↔ List.Forall₂ (fun a b => f a = g b) l l' := by
  rw [← List.forall₂_eq_eq_eq, List.forall₂_map_left_iff,
    List.forall₂_map_right_iff]

/-! ## Names and attributes -/

theorem Settings.qualify_injective (s : Settings) (ns : Namespace) :
    Function.Injective fun name => s.qualify name ns := by
  intro name other h
  simp only [Settings.qualify] at h
  cases hshort : ns.abbreviation with
  | none =>
      rw [hshort] at h
      exact h
  | some short =>
      rw [hshort] at h
      by_cases hdeclared : s.isDeclared ns = true
      · simp only [if_pos hdeclared] at h
        exact (String.append_right_inj _).mp h
      · simp only [if_neg hdeclared] at h
        exact h

/-- Whether a node is an element of a given name. -/
def Node.isNamed (name : String) : Node → Bool
  | .element found _ _ => found == name
  | .text _ => false

namespace Fragment

variable (s : Settings)

theorem isNamed_toNode (name other : String) (ns : Namespace)
    (attributes : List (String × String)) (content : List Fragment) :
    (toNode s (.element name ns attributes content)).isNamed
        (s.qualify other ns) = (name == other) := by
  rw [toNode, Node.isNamed, Bool.eq_iff_iff, beq_iff_eq, beq_iff_eq]
  exact (s.qualify_injective ns).eq_iff

theorem toNode_identified (name : String) (ns : Namespace) (id : String)
    (content : List Fragment) :
    toNode s (.element name ns (identity id) content) =
      .element (s.qualify name ns) (identity id) (toNodes s content) := by
  have hfold : (identity id).foldl (fun l a => setAttribute a.1 a.2 l) [] =
      identity id := by
    by_cases h : id.isEmpty = true
    · rw [identity, if_pos h, List.foldl_nil]
    · rw [identity, if_neg h, List.foldl_cons, List.foldl_nil, setAttribute]
  rw [toNode, hfold]

theorem identity_eq_iff (id other : String) :
    identity id = identity other ↔ id = other := by
  constructor
  · intro h
    by_cases hid : id.isEmpty = true
    · by_cases hother : other.isEmpty = true
      · rw [String.isEmpty_iff.mp hid, String.isEmpty_iff.mp hother]
      · rw [identity, identity, if_pos hid, if_neg hother] at h
        cases h
    · by_cases hother : other.isEmpty = true
      · rw [identity, identity, if_neg hid, if_pos hother] at h
        cases h
      · rw [identity, identity, if_neg hid, if_neg hother] at h
        cases h
        rfl
  · intro h
    rw [h]

variable {name other : String} {ns : Namespace} {id id' : String}
  {content content' : List Fragment}

/-- An element with an identifier tells its name, its identifier and its
content. -/
theorem toNode_identified_eq_iff :
    toNode s (.element name ns (identity id) content) =
        toNode s (.element other ns (identity id') content') ↔
      name = other ∧ id = id' ∧ toNodes s content = toNodes s content' := by
  rw [toNode_identified, toNode_identified, Node.element.injEq,
    identity_eq_iff, (s.qualify_injective ns).eq_iff]

theorem toNode_wrap_eq_iff :
    toNode s (.wrap name ns content) = toNode s (.wrap other ns content') ↔
      name = other ∧ toNodes s content = toNodes s content' := by
  rw [wrap, wrap, toNode, toNode, Node.element.injEq,
    (s.qualify_injective ns).eq_iff]
  simp

theorem toNodes_singleton_eq_iff {fragment fragment' : Fragment} :
    toNodes s [fragment] = toNodes s [fragment'] ↔
      toNode s fragment = toNode s fragment' := by
  simp [toNodes]

theorem mem_toNodes_map {α : Type} {f : α → Fragment} {l : List α}
    {node : Node} :
    node ∈ toNodes s (l.map f) ↔ ∃ a ∈ l, toNode s (f a) = node := by
  rw [toNodes_eq_map, List.map_map]
  exact List.mem_map

theorem forall₂_toNodes_map {α : Type} {f : α → Fragment}
    {R : α → Node → Prop} {l : List α} (h : ∀ a ∈ l, R a (toNode s (f a))) :
    List.Forall₂ R l (toNodes s (l.map f)) := by
  rw [toNodes_eq_map, List.map_map, List.forall₂_map_right_iff,
    List.forall₂_same]
  exact h

theorem toNodes_map_eq_iff {α : Type} {f : α → Fragment} {R : α → α → Prop}
    (h : ∀ a b, toNode s (f a) = toNode s (f b) ↔ R a b) (l l' : List α) :
    toNodes s (l.map f) = toNodes s (l'.map f) ↔ List.Forall₂ R l l' := by
  rw [toNodes_eq_map, toNodes_eq_map, List.map_map, List.map_map,
    map_eq_map_iff_forall₂]
  simp only [Function.comp_apply, h]

end Fragment

/-- Two lists in a row are told apart by a property of the items of the
first. -/
theorem append_eq_append_iff_of_separated {α : Type} {p : α → Bool}
    {as as' bs bs' : List α} (ha : ∀ a ∈ as, p a = true)
    (ha' : ∀ a ∈ as', p a = true) (hb : ∀ b ∈ bs, p b = false)
    (hb' : ∀ b ∈ bs', p b = false) :
    as ++ bs = as' ++ bs' ↔ as = as' ∧ bs = bs' := by
  constructor
  · intro h
    have hnone : ∀ {l : List α}, (∀ b ∈ l, p b = false) →
        l.filter p = [] := by
      intro l hl
      rw [List.filter_eq_nil_iff]
      intro b hmem
      rw [hl b hmem]
      exact Bool.false_ne_true
    have hfilter := congrArg (List.filter p) h
    rw [List.filter_append, List.filter_append, List.filter_eq_self.mpr ha,
      List.filter_eq_self.mpr ha', hnone hb, hnone hb', List.append_nil,
      List.append_nil] at hfilter
    subst hfilter
    exact ⟨rfl, List.append_cancel_left h⟩
  · rintro ⟨rfl, rfl⟩
    rfl

end CityMarkup
