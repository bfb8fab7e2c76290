import CityMarkup.Proofs.Appearance.Collection

/-!
# Bindings grouped by theme

Collecting reorders the bindings of an object and changes nothing else about
them.  A binding that is pushed joins the list of its theme at the end, so each
list has the order of the visit and the lists together hold what was pushed,
each binding as often as it was stored.  A list comes into being with its first
binding, so none is empty and the themes are exactly those that are bound.
-/

namespace CityMarkup

namespace Dictionary

variable {α : Type}

/-! ## Items under their keys -/

/-- The items of some lists, each with the key of its list. -/
def paired (entries : List (String × List α)) : List (String × α) :=
  entries.flatMap fun entry => entry.2.map fun item => (entry.1, item)

theorem paired_cons (entry : String × List α)
    (rest : List (String × List α)) :
    paired (entry :: rest) =
      (entry.2.map fun item => (entry.1, item)) ++ paired rest := by
  rw [paired, List.flatMap_cons, paired]

theorem length_paired (entries : List (String × List α)) :
    (paired entries).length =
      (entries.flatMap fun entry => entry.2).length := by
  induction entries with
  | nil => rfl
  | cons entry rest ih =>
      rw [paired_cons, List.length_append, ih, List.length_map,
        List.flatMap_cons, List.length_append]

/-- Placing the list of a key with one more item adds that item. -/
theorem paired_place_perm {entries : List (String × List α)}
    (h : entries.Pairwise fun a b => a.1 < b.1) (key : String) (value : α) :
    (paired (place key
      ((((entries.find? fun entry => entry.1 == key).map (·.2)).getD []) ++
        [value]) entries)).Perm (paired entries ++ [(key, value)]) := by
  induction entries with
  | nil => exact .refl _
  | cons first rest ih =>
      obtain ⟨hfirst, hrest⟩ := List.pairwise_cons.mp h
      rw [place]
      -- The key comes before the first one, further back, or is the first.
      by_cases hlt : key < first.1
      · have hnone : (first :: rest).find? (fun entry => entry.1 == key) =
            none := by
          refine find?_eq_none_of_lt fun entry hentry => ?_
          rcases List.mem_cons.mp hentry with rfl | hentry
          · exact hlt
          · exact String.lt_trans hlt (hfirst entry hentry)
        rw [if_pos hlt, hnone, paired_cons]
        exact (List.perm_append_singleton (key, value)
          (paired (first :: rest))).symm
      · by_cases hgt : first.1 < key
        · have hne : (first.1 == key) = false := by
            rw [beq_eq_false_iff_ne]
            intro heq
            rw [heq] at hgt
            exact String.lt_irrefl _ hgt
          rw [if_neg hlt, if_pos hgt, List.find?_cons_of_neg (by simp [hne]),
            paired_cons, paired_cons, List.append_assoc]
          exact (ih hrest).append_left _
        · have heq : first.1 = key :=
            String.le_antisymm (String.not_lt.mp hlt) (String.not_lt.mp hgt)
          rw [if_neg hlt, if_neg hgt,
            List.find?_cons_of_pos (by simp [heq]), paired_cons, paired_cons,
            heq]
          simp only [Option.map_some, Option.getD_some, List.map_append,
            List.append_assoc]
          have hlast : ([(key, value)] ++ paired rest).Perm
              (paired rest ++ [(key, value)]) := List.perm_append_comm
          exact hlast.append_left _

theorem paired_push_perm (d : Dictionary (List α)) (key : String)
    (value : α) :
    (paired (d.push key value).entries).Perm
      (paired d.entries ++ [(key, value)]) :=
  paired_place_perm d.ascending key value

/-- Pushing all entries adds them to the items. -/
theorem paired_pushAll_perm (d : Dictionary (List α))
    (added : Dictionary α) :
    (paired (d.pushAll added).entries).Perm
      (paired d.entries ++ added.entries) := by
  -- The dictionary grows from step to step, so it is generalised.
  have hfold : ∀ (entries : List (String × α)) (d : Dictionary (List α)),
      (paired (entries.foldl (fun d entry => d.push entry.1 entry.2)
        d).entries).Perm (paired d.entries ++ entries) := by
    intro entries
    induction entries with
    | nil =>
        intro d
        rw [List.append_nil, List.foldl_nil]
    | cons entry rest ih =>
        intro d
        have hpush := (d.paired_push_perm entry.1 entry.2).append_right rest
        rw [List.append_assoc] at hpush
        rw [List.foldl_cons]
        exact (ih (d.push entry.1 entry.2)).trans hpush
  exact hfold added.entries d

/-! ## No empty lists -/

/-- Whether every list of a dictionary has an item. -/
def NoneEmpty (d : Dictionary (List α)) : Prop :=
  ∀ entry ∈ d.entries, entry.2 ≠ []

theorem noneEmpty_push {d : Dictionary (List α)} (h : d.NoneEmpty)
    (key : String) (value : α) : (d.push key value).NoneEmpty := by
  intro entry hentry
  rcases mem_place hentry with rfl | hold
  · exact List.append_ne_nil_of_right_ne_nil _ (List.cons_ne_nil value [])
  · exact h entry hold

theorem noneEmpty_pushAll {d : Dictionary (List α)} (h : d.NoneEmpty)
    (added : Dictionary α) : (d.pushAll added).NoneEmpty := by
  rw [pushAll]
  induction added.entries generalizing d with
  | nil => exact h
  | cons entry rest ih => exact ih (noneEmpty_push h entry.1 entry.2)

/-- Without empty lists, a key is absent exactly when nothing is listed at
it. -/
theorem get?_eq_listAt {d : Dictionary (List α)} (h : d.NoneEmpty)
    (key : String) :
    d.get? key =
      if d.listAt key = [] then none else some (d.listAt key) := by
  rw [listAt]
  cases hget : d.get? key with
  | none => rfl
  | some items =>
      have hne : items ≠ [] := by
        obtain ⟨entry, hfind, rfl⟩ := Option.map_eq_some_iff.mp hget
        exact h entry (List.mem_of_find?_eq_some hfind)
      rw [Option.getD_some, if_neg hne]

end Dictionary

/-! ## Groups of what is bound -/

namespace Sided

variable {α : Type}

/-- All that is bound, on the front and then on the back, with the themes. -/
def stored (s : Sided α) : List (String × α) :=
  s.front.entries ++ s.back.entries

end Sided

/-- Whether a dictionary groups by theme what is bound to some targets.  Under
each theme that is bound stands the list of what is bound for it, target after
target and the front of each before its back; and all lists together hold
everything that is bound, as often as it is. -/
structure Dictionary.Groups {α : Type} (d : Dictionary (List α))
    (targets : List (Sided α)) : Prop where
  get?_eq : ∀ theme, d.get? theme =
    if (targets.flatMap fun s => s.boundFor theme) = [] then none
    else some (targets.flatMap fun s => s.boundFor theme)
  noneEmpty : d.NoneEmpty
  items : (Dictionary.paired d.entries).Perm (targets.flatMap Sided.stored)
  total : (d.entries.flatMap fun entry => entry.2).length =
    (targets.flatMap Sided.stored).length

namespace Sided

variable {α : Type}

theorem noneEmpty_foldl (f : Bindings → Sided α) (targets : List Bindings)
    {d : Dictionary (List α)} (h : d.NoneEmpty) :
    (targets.foldl (fun d b => (d.pushAll (f b).front).pushAll (f b).back)
      d).NoneEmpty := by
  induction targets generalizing d with
  | nil => exact h
  | cons b rest ih =>
      exact ih (Dictionary.noneEmpty_pushAll
        (Dictionary.noneEmpty_pushAll h (f b).front) (f b).back)

theorem paired_foldl_perm (f : Bindings → Sided α) (targets : List Bindings)
    (d : Dictionary (List α)) :
    (Dictionary.paired (targets.foldl
      (fun d b => (d.pushAll (f b).front).pushAll (f b).back) d).entries).Perm
      (Dictionary.paired d.entries ++
        targets.flatMap fun b => (f b).stored) := by
  induction targets generalizing d with
  | nil => rw [List.flatMap_nil, List.append_nil, List.foldl_nil]
  | cons b rest ih =>
      have hfront := (d.paired_pushAll_perm (f b).front).append_right
        (f b).back.entries
      have hback := (d.pushAll (f b).front).paired_pushAll_perm (f b).back
      have hstep := (hback.trans hfront).append_right
        (rest.flatMap fun b => (f b).stored)
      rw [List.append_assoc, List.append_assoc,
        ← List.append_assoc (f b).front.entries] at hstep
      rw [List.foldl_cons, List.flatMap_cons]
      exact (ih _).trans hstep

/-- What is pushed target by target is grouped. -/
theorem groups_foldl (f : Bindings → Sided α) (targets : List Bindings) :
    (targets.foldl
      (fun (d : Dictionary (List α)) b =>
        (d.pushAll (f b).front).pushAll (f b).back)
      .empty).Groups (targets.map f) := by
  have hnone : (Dictionary.empty : Dictionary (List α)).NoneEmpty := by
    intro entry hentry
    cases hentry
  have hitems := paired_foldl_perm f targets .empty
  have hsome := noneEmpty_foldl f targets hnone
  refine ⟨fun theme => ?_, hsome, ?_, ?_⟩
  · have hlist := listAt_foldl f targets .empty theme
    rw [Dictionary.get?_eq_listAt hsome theme, hlist, List.flatMap_map]
    rfl
  · rw [List.flatMap_map]
    exact hitems
  · have hlength := hitems.length_eq
    rw [Dictionary.length_paired] at hlength
    rw [hlength, List.flatMap_map]
    rfl

end Sided

/-! ## Targets without bindings -/

theorem Dictionary.isEmpty_iff {α : Type} {d : Dictionary α} :
    d.isEmpty = true ↔ ∀ key, d.get? key = none := by
  rw [isEmpty, List.isEmpty_iff]
  constructor
  · intro hnil key
    rw [get?, hnil]
    rfl
  · intro hnone
    rw [List.eq_nil_iff_forall_not_mem]
    intro entry hentry
    have hmem : entry.1 ∈ d.keys := List.mem_map_of_mem hentry
    rw [mem_keys_iff, hnone entry.1] at hmem
    cases hmem

theorem Sided.isEmpty_iff {α : Type} {s : Sided α} :
    s.isEmpty = true ↔ ∀ theme side, (s.on side).get? theme = none := by
  rw [isEmpty, Bool.and_eq_true, Dictionary.isEmpty_iff,
    Dictionary.isEmpty_iff]
  constructor
  · rintro ⟨hfront, hback⟩ theme side
    cases side with
    | front => exact hfront theme
    | back => exact hback theme
  · intro h
    exact ⟨fun theme => h theme .front, fun theme => h theme .back⟩

/-- Nothing is bound when neither side has anything for any theme. -/
theorem Bindings.isEmpty_iff {b : Bindings} :
    b.isEmpty = true ↔
      ∀ theme side, b.material? theme side = none ∧
        b.texture? theme side = none := by
  rw [isEmpty, Bool.and_eq_true, Sided.isEmpty_iff, Sided.isEmpty_iff]
  simp only [forall_and, material?, texture?]

/-! ## What is collected -/

namespace ThemedAppearances

/-- Collecting is exact.  Materials and textures are grouped by theme in the
order of the visit, none is lost and none is repeated; the themes are those of
the two groups, each once and in the order of their bytes; and there is nothing
exactly when no target of the object carries anything. -/
theorem collect_exact (object : CityObject) :
    (collect object).materials.Groups
        (object.targets.map Bindings.materials) ∧
      (collect object).textures.Groups
        (object.targets.map Bindings.textures) ∧
      ((collect object).themes.Pairwise fun a b =>
        Utf8.encode a.toList < Utf8.encode b.toList) ∧
      (∀ theme, theme ∈ (collect object).themes ↔
        theme ∈ (collect object).materials.keys ∨
          theme ∈ (collect object).textures.keys) ∧
      ((collect object).isEmpty = true ↔
        ∀ b ∈ object.targets, ∀ theme side,
          b.material? theme side = none ∧ b.texture? theme side = none) := by
  refine ⟨?_, ?_, (collect object).ascending_bytes_themes,
    fun theme => mem_themes_iff, ?_⟩
  · rw [collect_eq_foldl, materials_foldl_addTarget]
    exact Sided.groups_foldl Bindings.materials object.targets
  · rw [collect_eq_foldl, textures_foldl_addTarget]
    exact Sided.groups_foldl Bindings.textures object.targets
  · rw [isEmpty_collect, List.all_eq_true]
    exact forall₂_congr fun b _ => Bindings.isEmpty_iff

end ThemedAppearances

end CityMarkup
