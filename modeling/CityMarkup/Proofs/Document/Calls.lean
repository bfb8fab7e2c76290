import CityMarkup.Proofs.Namespaces.Declarations
import Mathlib.Data.List.Induction

/-!
# Calls that write a document

A document is written by a sequence of calls.  What the sequence says about
the document can be read off without a builder: where it closes more elements
than it has opened, what is met on a walk through the document, and which
attributes each element has in the end.
-/

namespace CityMarkup

/-- A call that writes into a document. -/
inductive Call where
  | start (name : String) (ns : Namespace)
  | finish
  | set (name value : String)
  | text (value : String)
  | textElement (name : String) (ns : Namespace) (value : String)
deriving DecidableEq, Repr

/-- What is met on a walk through an element tree. -/
inductive Event where
  | start (name : String) (attributes : List (String × String))
  | text (value : String)
  | finish
deriving DecidableEq, Repr

namespace Node

mutual

/-- What is met on a walk through a node, from its start to its end. -/
def events : Node → List Event
  | .text value => [.text value]
  | .element name attributes children =>
    .start name attributes :: (allEvents children ++ [.finish])

/-- What is met on a walk through some nodes, one after the other. -/
def allEvents : List Node → List Event
  | [] => []
  | node :: rest => node.events ++ allEvents rest

end

theorem allEvents_append (first second : List Node) :
    allEvents (first ++ second) = allEvents first ++ allEvents second := by
  induction first with
  | nil => rfl
  | cons node rest ih =>
      rw [List.cons_append, allEvents, allEvents, ih, List.append_assoc]

end Node

namespace Call

/-- The number of elements that a call opens. -/
def opens : Call → Nat
  | start .. | textElement .. => 1
  | finish | set .. | text _ => 0

/-- The number of elements that a call closes. -/
def closes : Call → Nat
  | finish | textElement .. => 1
  | start .. | set .. | text _ => 0

/-- The number of elements that some calls open. -/
def starts : List Call → Nat
  | [] => 0
  | call :: rest => call.opens + starts rest

/-- The number of elements that some calls close. -/
def ends : List Call → Nat
  | [] => 0
  | call :: rest => call.closes + ends rest

@[simp]
theorem starts_nil : starts [] = 0 := rfl

@[simp]
theorem ends_nil : ends [] = 0 := rfl

@[simp]
theorem starts_cons (call : Call) (rest : List Call) :
    starts (call :: rest) = call.opens + starts rest := rfl

@[simp]
theorem ends_cons (call : Call) (rest : List Call) :
    ends (call :: rest) = call.closes + ends rest := rfl

/-- The place of the first call by which the ends outnumber the starts, given
that so many elements were open before. -/
def firstExcess? (depth : Nat) (calls : List Call) : Option Nat :=
  (List.range calls.length).find? fun i =>
    decide (depth + starts (calls.take (i + 1)) < ends (calls.take (i + 1)))

theorem firstExcess?_cons (depth : Nat) (call : Call) (rest : List Call) :
    firstExcess? depth (call :: rest) =
      if depth + call.opens < call.closes then some 0
      else (firstExcess? (depth + call.opens - call.closes) rest).map
        (· + 1) := by
  rw [firstExcess?, List.length_cons, List.range_succ_eq_map, List.find?_cons,
    List.find?_map]
  have hfirst : decide (depth + starts ((call :: rest).take (0 + 1)) <
      ends ((call :: rest).take (0 + 1))) =
      decide (depth + call.opens < call.closes) := by
    simp
  rw [hfirst]
  by_cases h : depth + call.opens < call.closes
  · rw [if_pos h, decide_eq_true h]
  · rw [if_neg h, decide_eq_false h, firstExcess?]
    refine congrArg (fun p => ((List.range rest.length).find? p).map
      Nat.succ) ?_
    funext i
    simp only [Function.comp_apply, List.take_succ_cons, starts_cons,
      ends_cons, Nat.succ_eq_add_one]
    apply decide_eq_decide.mpr
    omega

/-- Only an end can make the ends outnumber the starts. -/
theorem getElem?_of_firstExcess? {depth i : Nat} {calls : List Call}
    (h : firstExcess? depth calls = some i) : calls[i]? = some .finish := by
  induction calls generalizing depth i with
  | nil => cases h
  | cons call rest ih =>
      rw [firstExcess?_cons] at h
      by_cases hexcess : depth + call.opens < call.closes
      · rw [if_pos hexcess] at h
        cases h
        cases call with
        | finish => rfl
        | textElement name ns value =>
            simp only [opens, closes] at hexcess
            omega
        | start name ns => cases hexcess
        | set name value => cases hexcess
        | text value => cases hexcess
      · rw [if_neg hexcess] at h
        obtain ⟨j, hj, rfl⟩ := Option.map_eq_some_iff.mp h
        rw [List.getElem?_cons_succ]
        exact ih hj

/-- The attributes that calls give to the element that is the innermost open
one once `depth` more elements are closed, as long as it is open. -/
def writes : Nat → List Call → List (String × String)
  | _, [] => []
  | depth, start .. :: rest => writes (depth + 1) rest
  | 0, finish :: _ => []
  | depth + 1, finish :: rest => writes depth rest
  | 0, set name value :: rest => (name, value) :: writes 0 rest
  | depth + 1, set .. :: rest => writes (depth + 1) rest
  | depth, text _ :: rest => writes depth rest
  | depth, textElement .. :: rest => writes depth rest

end Call

/-- The attributes that an element has once they were written one after the
other: each name once, in the order in which the names were written first, and
with the value that was written last. -/
def settledAttributes (writes : List (String × String)) :
    List (String × String) :=
  (writes.map Prod.fst).eraseDups.map fun name =>
    (name, (writes.reverse.lookup name).getD "")

namespace Call

/-- What is met on a walk through what the calls write, element by element.
The attributes of an element are all that the calls give to it, also when its
content has begun. -/
def events (s : Settings) : List Call → List Event
  | [] => []
  | start name ns :: rest =>
    .start (s.qualify name ns) (settledAttributes (writes 0 rest)) ::
      events s rest
  | finish :: rest => .finish :: events s rest
  | set .. :: rest => events s rest
  | text value :: rest => .text value :: events s rest
  | textElement name ns value :: rest =>
    .start (s.qualify name ns) [] :: .text value :: .finish :: events s rest

/-- What is met on a walk through a whole document whose document element is
filled by the calls. -/
def documentEvents (s : Settings) (name : String) (ns : Namespace)
    (calls : List Call) : List Event :=
  .start (s.qualify name ns)
      (settledAttributes (s.declarations ++ writes 0 calls)) ::
    (events s calls ++ [.finish])

end Call

/-! ## Attributes written one after the other -/

theorem eraseDups_concat (names : List String) (name : String) :
    (names ++ [name]).eraseDups =
      if name ∈ names then names.eraseDups else names.eraseDups ++ [name] := by
  rw [List.eraseDups_append, List.removeAll]
  by_cases h : name ∈ names
  · simp [h]
  · simp [h, List.eraseDups_cons]

theorem nodup_eraseDups (names : List String) : names.eraseDups.Nodup := by
  induction names using List.reverseRecOn with
  | nil => exact List.nodup_nil
  | append_singleton names name ih =>
      rw [eraseDups_concat]
      by_cases h : name ∈ names
      · rw [if_pos h]
        exact ih
      · rw [if_neg h]
        have hnot : name ∉ names.eraseDups := by
          rw [List.mem_eraseDups]
          exact h
        rw [List.nodup_append]
        refine ⟨ih, by simp, ?_⟩
        rintro other hother _ hlast rfl
        exact hnot (List.mem_singleton.mp hlast ▸ hother)

theorem keys_settledAttributes (writes : List (String × String)) :
    (settledAttributes writes).map Prod.fst =
      (writes.map Prod.fst).eraseDups := by
  rw [settledAttributes, List.map_map]
  exact List.map_id _

theorem nodup_keys_settledAttributes (writes : List (String × String)) :
    ((settledAttributes writes).map Prod.fst).Nodup := by
  rw [keys_settledAttributes]
  exact nodup_eraseDups _

/-- Setting an attribute changes the value that its name stands for. -/
theorem setAttribute_map {names : List String} (h : names.Nodup)
    (name value : String) (f : String → String) :
    setAttribute name value (names.map fun other => (other, f other)) =
      (if name ∈ names then names else names ++ [name]).map fun other =>
        (other, if other = name then value else f other) := by
  induction names with
  | nil => simp [setAttribute]
  | cons first rest ih =>
      obtain ⟨hfirst, hrest⟩ := List.nodup_cons.mp h
      rw [List.map_cons, setAttribute]
      by_cases hname : first = name
      · subst hname
        have hsame : rest.map (fun other => (other, f other)) =
            rest.map fun other =>
              (other, if other = first then value else f other) := by
          apply List.map_congr_left
          intro other hother
          have hne : other ≠ first := by
            rintro rfl
            exact hfirst hother
          rw [if_neg hne]
        simp [hsame]
      · rw [if_neg hname, ih hrest]
        have hne : name ≠ first := Ne.symm hname
        by_cases hmem : name ∈ rest <;> simp [hmem, hname, hne]

theorem settledAttributes_concat (writes : List (String × String))
    (name value : String) :
    settledAttributes (writes ++ [(name, value)]) =
      setAttribute name value (settledAttributes writes) := by
  rw [settledAttributes, settledAttributes,
    setAttribute_map (nodup_eraseDups _), List.map_append, List.map_singleton,
    eraseDups_concat, List.reverse_concat]
  simp only [List.mem_eraseDups]
  apply List.map_congr_left
  intro other _
  rw [List.lookup_cons]
  by_cases h : other = name
  · simp [h]
  · have hne : (other == name) = false := by simpa using h
    rw [hne, if_neg h]

/-- Setting attributes one after the other leaves each name once, where it was
first set and with the value that was set last. -/
theorem settledAttributes_eq_foldl (writes : List (String × String)) :
    settledAttributes writes =
      writes.foldl (fun l a => setAttribute a.1 a.2 l) [] := by
  induction writes using List.reverseRecOn with
  | nil => rfl
  | append_singleton writes last ih =>
      rw [settledAttributes_concat, List.foldl_append, ih]
      rfl

end CityMarkup
