import CityMarkup.Proofs.Encoding.Runs
import CityMarkup.Proofs.Markup.Names

/-!
# The elements that encoders ask for

Every element of a document is asked for by a local name and a namespace.  The
encoders ask for namespaces that are declared, under names of letters and
digits, and give their elements attributes of a few names only.  The default
namespace is asked for in addresses and nowhere else.
-/

namespace CityMarkup

/-- Whether elements of a namespace may be asked for under its prefix. -/
structure Namespace.IsBound (declared : Namespace → Bool) (ns : Namespace) :
    Prop where
  ne : ns ≠ .cityGml
  declared : declared ns = true

/-- An element that is asked for. -/
structure Request where
  name : String
  ns : Namespace
  attributes : List (String × String)
deriving DecidableEq, Repr

namespace Fragment

mutual

/-- The elements that a fragment asks for, in the order of their starts. -/
def requests : Fragment → List Request
  | .text _ => []
  | .element name ns attributes content =>
    ⟨name, ns, attributes⟩ :: allRequests content

/-- The elements that some fragments ask for, in the order of their starts. -/
def allRequests : List Fragment → List Request
  | [] => []
  | fragment :: rest => requests fragment ++ allRequests rest

end

theorem allRequests_eq_flatMap (fragments : List Fragment) :
    allRequests fragments = fragments.flatMap requests := by
  induction fragments with
  | nil => rfl
  | cons fragment rest ih => rw [allRequests, ih, List.flatMap_cons]

end Fragment

namespace Request

/-- The element that is written for a request. -/
def written (s : Settings) (r : Request) :
    String × List (String × String) :=
  (s.qualify r.name r.ns,
    r.attributes.foldl (fun l a => setAttribute a.1 a.2 l) [])

/-- The names of the attributes that elements are given. -/
def attributeNames : List String :=
  ["gml:id", "srsName", "srsDimension", "Type", "name", "uri", "ring"]

/-- The names of the elements that belong to the default namespace. -/
def defaultNames : List String :=
  ["Address", "xalAddress"]

/-- A request under a plain name, with known attributes, and for a namespace
that is declared or for an element of the default namespace. -/
structure IsSound (declared : Namespace → Bool) (r : Request) : Prop where
  plain : r.name.toList.all Char.isAlphanum = true
  known : ∀ a ∈ r.attributes, a.1 ∈ attributeNames
  covered : if r.ns = .cityGml then r.name ∈ defaultNames
    else declared r.ns = true

end Request

namespace Fragment

/-! ## From requests to elements -/

mutual

theorem elements_toNode (s : Settings) :
    ∀ fragment : Fragment,
      (fragment.toNode s).elements = fragment.requests.map (Request.written s)
  | .text _ => by
    rw [toNode, Node.elements, requests, List.map_nil]
  | .element name ns attributes content => by
    rw [toNode, Node.elements, requests, List.map_cons,
      allElements_toNodes s content]
    rfl

/-- The elements of a document are those that were asked for. -/
theorem allElements_toNodes (s : Settings) :
    ∀ fragments : List Fragment,
      Node.allElements (toNodes s fragments) =
        (allRequests fragments).map (Request.written s)
  | [] => by
    rw [toNodes, Node.allElements, allRequests, List.map_nil]
  | fragment :: rest => by
    rw [toNodes, Node.allElements, allRequests, List.map_append,
      elements_toNode s fragment, allElements_toNodes s rest]

end

/-! ## Sound fragments -/

/-- Whether all requests of a fragment are sound. -/
def IsSound (declared : Namespace → Bool) (fragment : Fragment) : Prop :=
  ∀ r ∈ fragment.requests, r.IsSound declared

/-- Whether all requests of some fragments are sound. -/
def AllSound (declared : Namespace → Bool) (fragments : List Fragment) :
    Prop :=
  ∀ fragment ∈ fragments, fragment.IsSound declared

variable {declared : Namespace → Bool}

theorem AllSound.of_mem_requests {fragments : List Fragment}
    (h : AllSound declared fragments) {r : Request}
    (hr : r ∈ allRequests fragments) : r.IsSound declared := by
  rw [allRequests_eq_flatMap] at hr
  obtain ⟨fragment, hmem, hr⟩ := List.mem_flatMap.mp hr
  exact h fragment hmem r hr

theorem isSound_text (value : String) : IsSound declared (.text value) := by
  intro r hr
  rw [requests] at hr
  cases hr

theorem isSound_element {name : String} {ns : Namespace}
    {attributes : List (String × String)} {content : List Fragment}
    (hrequest : Request.IsSound declared ⟨name, ns, attributes⟩)
    (hcontent : AllSound declared content) :
    IsSound declared (.element name ns attributes content) := by
  intro r hr
  rw [requests, List.mem_cons] at hr
  rcases hr with rfl | hr
  · exact hrequest
  · exact hcontent.of_mem_requests hr

theorem IsSound.content {name : String} {ns : Namespace}
    {attributes : List (String × String)} {content : List Fragment}
    (h : IsSound declared (.element name ns attributes content)) :
    AllSound declared content := by
  intro fragment hmem r hr
  apply h
  rw [requests, allRequests_eq_flatMap]
  exact List.mem_cons_of_mem _ (List.mem_flatMap.mpr ⟨fragment, hmem, hr⟩)

theorem allSound_nil : AllSound declared [] := by
  intro fragment hmem
  cases hmem

theorem AllSound.cons {fragment : Fragment} {rest : List Fragment}
    (hfragment : fragment.IsSound declared) (hrest : AllSound declared rest) :
    AllSound declared (fragment :: rest) := by
  intro other hmem
  rcases List.mem_cons.mp hmem with rfl | hmem
  · exact hfragment
  · exact hrest other hmem

theorem allSound_singleton {fragment : Fragment}
    (h : fragment.IsSound declared) : AllSound declared [fragment] :=
  .cons h allSound_nil

theorem allSound_append {first second : List Fragment} :
    AllSound declared (first ++ second) ↔
      AllSound declared first ∧ AllSound declared second :=
  List.forall_mem_append

theorem AllSound.append {first second : List Fragment}
    (hfirst : AllSound declared first) (hsecond : AllSound declared second) :
    AllSound declared (first ++ second) :=
  allSound_append.mpr ⟨hfirst, hsecond⟩

theorem allSound_map {α : Type} {f : α → Fragment} {l : List α}
    (h : ∀ a ∈ l, (f a).IsSound declared) : AllSound declared (l.map f) := by
  intro fragment hmem
  obtain ⟨a, ha, rfl⟩ := List.mem_map.mp hmem
  exact h a ha

theorem allSound_flatMap {α : Type} {f : α → List Fragment} {l : List α}
    (h : ∀ a ∈ l, AllSound declared (f a)) :
    AllSound declared (l.flatMap f) := by
  intro fragment hmem
  obtain ⟨a, ha, hmem⟩ := List.mem_flatMap.mp hmem
  exact h a ha fragment hmem

theorem allSound_ite {condition : Prop} [Decidable condition]
    {fragments : List Fragment} (h : AllSound declared fragments) :
    AllSound declared (if condition then fragments else []) := by
  split
  · exact h
  · exact allSound_nil

theorem allSound_ite_not {condition : Prop} [Decidable condition]
    {fragments : List Fragment} (h : AllSound declared fragments) :
    AllSound declared (if condition then [] else fragments) := by
  split
  · exact allSound_nil
  · exact h

end Fragment

namespace Request

variable {declared : Namespace → Bool} {name : String} {ns : Namespace}

/-- A request for an element with a prefix. -/
theorem isSound_prefixed {attributes : List (String × String)}
    (hplain : name.toList.all Char.isAlphanum = true)
    (hns : ns.IsBound declared)
    (hknown : ∀ a ∈ attributes, a.1 ∈ attributeNames) :
    IsSound declared ⟨name, ns, attributes⟩ where
  plain := hplain
  known := hknown
  covered := by
    rw [if_neg hns.ne]
    exact hns.declared

theorem known_nil : ∀ a ∈ ([] : List (String × String)),
    a.1 ∈ attributeNames := by
  intro a ha
  cases ha

theorem known_singleton {name : String} (h : name ∈ attributeNames)
    (value : String) : ∀ a ∈ [(name, value)], a.1 ∈ attributeNames := by
  intro a ha
  rw [List.mem_singleton.mp ha]
  exact h

theorem known_identity (id : String) :
    ∀ a ∈ Fragment.identity id, a.1 ∈ attributeNames := by
  rw [Fragment.identity]
  split
  · exact known_nil
  · exact known_singleton (by decide) id

end Request

end CityMarkup
