import CityMarkup.Proofs.Encoding.Paths
import CityMarkup.Proofs.Number.Sequences
import CityMarkup.Appearance.Fragment

/-!
# Parameters of surfaces

A color is a list of numbers, and so is a single number.  A list of numbers with
a name is written as one element unless all of its numbers are zero, and then it
is left out.  Reading parameters with different names gives the numbers of each,
with zeros for what was left out.
-/

namespace CityMarkup

/-! ## Colors as numbers -/

/-- The channels of a color. -/
def Color.channels (c : Color) : List Single :=
  [c.red, c.green, c.blue]

/-- The channels of a color. -/
def ColorPlusOpacity.channels (c : ColorPlusOpacity) : List Single :=
  [c.red, c.green, c.blue, c.opacity]

theorem Color.text_eq (c : Color) :
    c.text = BinaryNumber.listText c.channels := by
  simp [text, BinaryNumber.listText, channels, String.intercalate_cons_cons,
    String.append_assoc]

theorem ColorPlusOpacity.text_eq (c : ColorPlusOpacity) :
    c.text = BinaryNumber.listText c.channels := by
  simp [text, BinaryNumber.listText, channels, String.intercalate_cons_cons,
    String.append_assoc]

theorem Color.isZero_eq (c : Color) :
    c.isZero = c.channels.all BinaryNumber.isZero := by
  simp [isZero, channels, Bool.and_assoc]

theorem ColorPlusOpacity.isZero_eq (c : ColorPlusOpacity) :
    c.isZero = c.channels.all BinaryNumber.isZero := by
  simp [isZero, channels, Bool.and_assoc]

/-- A number is zero if and only if it is written as zero, with or without a
minus sign. -/
theorem BinaryNumber.isZero_iff {f : BinaryFormat} (x : BinaryNumber f) :
    x.isZero = true ↔ x = .zero ∨ x = ⟨true, 0, Nat.two_pow_pos _⟩ := by
  obtain ⟨negative, magnitude, hlt⟩ := x
  rw [isZero, beq_iff_eq, zero, mk.injEq, mk.injEq]
  cases negative with
  | true => simp
  | false => simp

/-- The numbers that are read back, which are zeros if all numbers are zero. -/
def normalNumbers (xs : List Single) : List Single :=
  if xs.all BinaryNumber.isZero then List.replicate xs.length .zero
  else xs.map BinaryNumber.canonical

theorem all_isZero_normalNumbers (xs : List Single) :
    (normalNumbers xs).all BinaryNumber.isZero =
      xs.all BinaryNumber.isZero := by
  rw [normalNumbers]
  split
  · rename_i hzero
    have hone : (BinaryNumber.zero : Single).isZero = true := rfl
    rw [hzero, List.all_replicate, hone]
    split <;> rfl
  · rw [List.all_map]
    exact congrArg xs.all (funext Single.isZero_canonical)

theorem listText_canonical (xs : List Single) :
    BinaryNumber.listText (xs.map BinaryNumber.canonical) =
      BinaryNumber.listText xs := by
  rw [BinaryNumber.listText, List.map_map, BinaryNumber.listText]
  exact congrArg (fun f => " ".intercalate (xs.map f))
    (funext Single.text_canonical)

/-! ## Parameters -/

/-- A list of numbers with a name. -/
structure Parameter where
  name : String
  numbers : List Single

namespace Parameter

/-- Whether all numbers are zero. -/
def isZero (p : Parameter) : Bool :=
  p.numbers.all BinaryNumber.isZero

/-- The parameter with the numbers that are read back. -/
def normal (p : Parameter) : Parameter :=
  ⟨p.name, normalNumbers p.numbers⟩

/-- The element for the numbers. -/
def fragment (p : Parameter) : Fragment :=
  .textElement p.name .appearance (BinaryNumber.listText p.numbers)

/-- The element for the numbers, unless all of them are zero. -/
def fragments (p : Parameter) : List Fragment :=
  if p.isZero then [] else [p.fragment]

theorem fragments_normal (p : Parameter) :
    p.normal.fragments = p.fragments := by
  have hzero : p.normal.isZero = p.isZero :=
    all_isZero_normalNumbers p.numbers
  rw [fragments, fragments, hzero]
  split
  · rfl
  · rename_i hnonzero
    have hnumbers : normalNumbers p.numbers =
        p.numbers.map BinaryNumber.canonical := if_neg hnonzero
    rw [fragment, fragment, normal, hnumbers, listText_canonical]

theorem flatMap_fragments_normal (ps : List Parameter) :
    (ps.map normal).flatMap fragments = ps.flatMap fragments := by
  rw [List.flatMap_map]
  exact congrArg ps.flatMap (funext fragments_normal)

theorem colorFragments_eq (name : String) (c : Color) :
    Material.colorFragments name c = fragments ⟨name, c.channels⟩ := by
  rw [Material.colorFragments, c.text_eq, c.isZero_eq]
  rfl

theorem scalarFragments_eq (name : String) (x : Single) :
    Material.scalarFragments name x = fragments ⟨name, [x]⟩ := by
  have hzero : isZero ⟨name, [x]⟩ = x.isZero := by simp [isZero]
  have htext : BinaryNumber.listText [x] = x.text := by
    simp [BinaryNumber.listText]
  rw [Material.scalarFragments, fragments, hzero, fragment, htext]

/-! ## What is written -/

/-- An element whose text has one token for each number of a parameter. -/
def IsWritten (s : Settings) (p : Parameter) (node : Node) : Prop :=
  ∃ text, tokensOf text = p.numbers.map BinaryNumber.text ∧
    node = .element (s.qualify p.name .appearance) [] [.text text]

/-- The parameters that are written. -/
def shown (ps : List Parameter) : List Parameter :=
  ps.filter fun p => !p.isZero

/-- A parameter is written if and only if some number of it is not zero. -/
theorem mem_shown (ps : List Parameter) (p : Parameter) :
    p ∈ shown ps ↔ p ∈ ps ∧
      ∃ x ∈ p.numbers, x ≠ .zero ∧ x ≠ ⟨true, 0, Nat.two_pow_pos _⟩ := by
  have hzero : ∀ x : Single, (!x.isZero) = true ↔
      x ≠ .zero ∧ x ≠ ⟨true, 0, Nat.two_pow_pos _⟩ := by
    intro x
    rw [Bool.not_eq_true', ← Bool.not_eq_true, x.isZero_iff, not_or]
  rw [shown, List.mem_filter, isZero, List.not_all_eq_any_not, List.any_eq_true]
  simp only [hzero]

example : (shown [⟨"shininess", [⟨true, 0, Nat.two_pow_pos _⟩]⟩,
    ⟨"transparency", [.nan]⟩]).map name = ["transparency"] := by
  decide +kernel

variable (s : Settings)

theorem flatMap_fragments (ps : List Parameter) :
    ps.flatMap fragments = (shown ps).map fragment := by
  induction ps with
  | nil => rfl
  | cons p rest ih =>
      rw [List.flatMap_cons, ih, shown, shown, List.filter_cons, fragments]
      cases p.isZero with
      | true => rfl
      | false => rfl

theorem isWritten_toNodes (ps : List Parameter) :
    List.Forall₂ (IsWritten s) (shown ps)
      (Fragment.toNodes s (ps.flatMap fragments)) := by
  rw [flatMap_fragments, Fragment.toNodes_eq_map, List.map_map,
    List.forall₂_map_right_iff, List.forall₂_same]
  intro p _
  exact ⟨_, BinaryNumber.tokensOf_listText p.numbers, rfl⟩

/-! ## Reading parameters -/

/-- The numbers in the first element with a name, or as many zeros as there
should be. -/
def numbersOf (name : String) (count : Nat) (nodes : List Node) :
    List Single :=
  ((Node.textAt? [name] nodes).bind BinaryNumber.ofListText?).getD
    (List.replicate count .zero)

/-- Names of letters and digits, each of them once. -/
structure Distinct (ps : List Parameter) : Prop where
  plain : ∀ name ∈ ps.map Parameter.name,
    name.toList.all Char.isAlphanum = true
  nodup : (ps.map Parameter.name).Nodup

theorem Distinct.tail {p : Parameter} {rest : List Parameter}
    (h : Distinct (p :: rest)) : Distinct rest where
  plain name hname := h.plain name (List.mem_cons_of_mem _ hname)
  nodup := (List.nodup_cons.mp h.nodup).2

theorem isOther_fragments {p : Parameter} {wanted : String}
    (h : p.name.toList.all Char.isAlphanum = true ∧ p.name ≠ wanted) :
    ∀ fragment ∈ p.fragments, Fragment.IsOther wanted fragment := by
  rw [fragments]
  split
  · exact List.forall_mem_nil _
  · exact List.forall_mem_singleton.mpr h

theorem Distinct.isOther {ps : List Parameter} (hps : Distinct ps)
    {wanted : String} (h : wanted ∉ ps.map Parameter.name) :
    ∀ fragment ∈ ps.flatMap fragments, Fragment.IsOther wanted fragment := by
  intro fragment hfragment
  obtain ⟨p, hp, hmem⟩ := List.mem_flatMap.mp hfragment
  have hname := List.mem_map_of_mem (f := Parameter.name) hp
  refine isOther_fragments ⟨hps.plain _ hname, fun heq => ?_⟩ fragment hmem
  exact h (heq ▸ hname)

/-- The text of a parameter is found under its name, unless all of its numbers
are zero. -/
theorem textAt?_of_mem {ps : List Parameter} (hps : Distinct ps)
    {p : Parameter} (hp : p ∈ ps) {rest : List Fragment}
    (hrest : Node.textAt? [p.name] (Fragment.toNodes s rest) = none) :
    Node.textAt? [p.name]
        (Fragment.toNodes s (ps.flatMap fragments ++ rest)) =
      if p.isZero then none else some (BinaryNumber.listText p.numbers) := by
  induction ps with
  | nil => cases hp
  | cons first others ih =>
      obtain ⟨hfresh, -⟩ := List.nodup_cons.mp hps.nodup
      have hplain := hps.plain first.name List.mem_cons_self
      rw [List.flatMap_cons, List.append_assoc]
      rcases List.mem_cons.mp hp with rfl | hmem
      · rw [fragments]
        split
        · rw [List.nil_append, Fragment.textAt?_append_of_isOther s
            (hps.tail.isOther hfresh), hrest]
        · rw [List.singleton_append, fragment, Fragment.textElement,
            Fragment.textAt?_toNodes_cons s hplain, if_pos rfl]
          rfl
      · have hother : first.name ≠ p.name := by
          intro heq
          exact hfresh (heq ▸ List.mem_map_of_mem hmem)
        rw [Fragment.textAt?_append_of_isOther s
          (isOther_fragments ⟨hplain, hother⟩), ih hps.tail hmem]

/-- Reading a parameter gives its numbers, up to signs of zeros if all of them
are zero. -/
theorem numbersOf_toNodes {ps : List Parameter} (hps : Distinct ps)
    {p : Parameter} (hp : p ∈ ps) {rest : List Fragment}
    (hrest : Node.textAt? [p.name] (Fragment.toNodes s rest) = none) :
    numbersOf p.name p.numbers.length
        (Fragment.toNodes s (ps.flatMap fragments ++ rest)) =
      normalNumbers p.numbers := by
  rw [numbersOf, textAt?_of_mem s hps hp hrest, isZero, normalNumbers]
  split
  · rfl
  · rw [Option.bind_some, BinaryNumber.ofListText?_listText]
    rfl

end Parameter

end CityMarkup
