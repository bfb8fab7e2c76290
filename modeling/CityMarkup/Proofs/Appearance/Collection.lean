import CityMarkup.Proofs.Appearance.Visit
import CityMarkup.Proofs.Text.Order

/-!
# What is collected by theme

Collecting keeps the bindings of each theme in the order in which their targets
are visited, the front of a target before its back.  The themes are those that
some target binds anything for, and they come in the order of their bytes.
-/

namespace CityMarkup

/-! ## Dictionaries of lists -/

namespace Dictionary

variable {α : Type}

theorem mem_keys_iff {d : Dictionary α} {key : String} :
    key ∈ d.keys ↔ (d.get? key).isSome = true := by
  rw [keys, get?, Option.isSome_map, List.find?_isSome, List.mem_map]
  simp only [beq_iff_eq]

theorem mem_keys_insert {d : Dictionary α} {key other : String} {value : α} :
    other ∈ (d.insert key value).keys ↔ other = key ∨ other ∈ d.keys := by
  rw [mem_keys_iff, mem_keys_iff, get?_insert]
  by_cases h : key = other
  · simp [h]
  · rw [if_neg h]
    constructor
    · intro hd
      exact Or.inr hd
    · rintro (rfl | hd)
      · exact absurd rfl h
      · exact hd

theorem ascending_keys (d : Dictionary α) :
    d.keys.Pairwise fun a b => a < b := by
  rw [keys, List.pairwise_map]
  exact d.ascending

/-- The keys come in the order of their bytes. -/
theorem ascending_bytes_keys (d : Dictionary α) :
    d.keys.Pairwise fun a b =>
      Utf8.encode a.toList < Utf8.encode b.toList := by
  apply d.ascending_keys.imp
  intro a b h
  exact Utf8.encode_lt_encode h

/-- The list under a key, which is empty at first. -/
def listAt (d : Dictionary (List α)) (key : String) : List α :=
  (d.get? key).getD []

theorem listAt_push (d : Dictionary (List α)) (key other : String)
    (value : α) :
    (d.push key value).listAt other =
      d.listAt other ++ if key = other then [value] else [] := by
  rw [listAt, push, get?_insert]
  by_cases h : key = other
  · rw [if_pos h, if_pos h, h]
    rfl
  · rw [if_neg h, if_neg h, List.append_nil]
    rfl

/-- A key before all others is not found among them. -/
theorem find?_eq_none_of_lt {entries : List (String × α)} {key : String}
    (h : ∀ entry ∈ entries, key < entry.1) :
    entries.find? (fun entry => entry.1 == key) = none := by
  rw [List.find?_eq_none]
  intro entry hentry hkey
  have hlt := h entry hentry
  rw [eq_of_beq hkey] at hlt
  exact String.lt_irrefl _ hlt

/-- Under a key there is at most one entry. -/
theorem flatMap_entries (d : Dictionary α) (key : String) :
    (d.entries.flatMap fun entry =>
      if entry.1 = key then [entry.2] else []) = (d.get? key).toList := by
  obtain ⟨entries, hascending⟩ := d
  rw [get?]
  induction entries with
  | nil => rfl
  | cons entry rest ih =>
      obtain ⟨hfirst, hrest⟩ := List.pairwise_cons.mp hascending
      rw [List.flatMap_cons, ih hrest, List.find?_cons]
      by_cases h : entry.1 = key
      · have hnone : rest.find? (fun other => other.1 == key) = none := by
          rw [h] at hfirst
          exact find?_eq_none_of_lt hfirst
        rw [if_pos h, hnone, h, beq_self_eq_true]
        rfl
      · rw [if_neg h, beq_eq_false_iff_ne.mpr h, List.nil_append]

theorem listAt_pushAll (d : Dictionary (List α)) (added : Dictionary α)
    (key : String) :
    (d.pushAll added).listAt key =
      d.listAt key ++ (added.get? key).toList := by
  have hfold : ∀ (entries : List (String × α)) (d : Dictionary (List α)),
      (entries.foldl (fun d entry => d.push entry.1 entry.2) d).listAt key =
        d.listAt key ++ entries.flatMap fun entry =>
          if entry.1 = key then [entry.2] else [] := by
    intro entries
    induction entries with
    | nil =>
        intro d
        simp
    | cons entry rest ih =>
        intro d
        rw [List.foldl_cons, ih, listAt_push, List.flatMap_cons,
          List.append_assoc]
  rw [pushAll, hfold, flatMap_entries]

theorem mem_keys_pushAll {d : Dictionary (List α)} {added : Dictionary α}
    {key : String} :
    key ∈ (d.pushAll added).keys ↔ key ∈ d.keys ∨ key ∈ added.keys := by
  have hfold : ∀ (entries : List (String × α)) (d : Dictionary (List α)),
      key ∈ (entries.foldl (fun d entry => d.push entry.1 entry.2) d).keys ↔
        key ∈ d.keys ∨ key ∈ entries.map (·.1) := by
    intro entries
    induction entries with
    | nil =>
        intro d
        simp
    | cons entry rest ih =>
        intro d
        rw [List.foldl_cons, ih, push, mem_keys_insert, List.map_cons,
          List.mem_cons, or_comm (a := key = entry.1), or_assoc]
  exact hfold added.entries d

end Dictionary

/-! ## Targets -/

namespace Sided

variable {α : Type}

/-- What is bound for a theme, on the front and then on the back. -/
def boundFor (s : Sided α) (theme : String) : List α :=
  ((s.on .front).get? theme).toList ++ ((s.on .back).get? theme).toList

/-- The lists under the themes after some targets have been visited. -/
theorem listAt_foldl (f : Bindings → Sided α) (targets : List Bindings)
    (d : Dictionary (List α)) (theme : String) :
    (targets.foldl (fun d b => (d.pushAll (f b).front).pushAll (f b).back)
      d).listAt theme =
      d.listAt theme ++ targets.flatMap fun b => (f b).boundFor theme := by
  induction targets generalizing d with
  | nil => simp
  | cons b rest ih =>
      rw [List.foldl_cons, ih, Dictionary.listAt_pushAll,
        Dictionary.listAt_pushAll, List.flatMap_cons, boundFor, on, on]
      simp only [List.append_assoc]

theorem mem_keys_foldl {f : Bindings → Sided α} {targets : List Bindings}
    {d : Dictionary (List α)} {theme : String} :
    theme ∈ (targets.foldl
      (fun d b => (d.pushAll (f b).front).pushAll (f b).back) d).keys ↔
      theme ∈ d.keys ∨
        ∃ b ∈ targets, ∃ side : Side, theme ∈ ((f b).on side).keys := by
  induction targets generalizing d with
  | nil => simp
  | cons b rest ih =>
      have hsides : (∃ side : Side, theme ∈ ((f b).on side).keys) ↔
          theme ∈ (f b).front.keys ∨ theme ∈ (f b).back.keys := by
        constructor
        · rintro ⟨side, hside⟩
          cases side with
          | front => exact Or.inl hside
          | back => exact Or.inr hside
        · rintro (hfront | hback)
          · exact ⟨.front, hfront⟩
          · exact ⟨.back, hback⟩
      rw [List.foldl_cons, ih, Dictionary.mem_keys_pushAll,
        Dictionary.mem_keys_pushAll]
      simp only [List.mem_cons, or_and_right, exists_or, exists_eq_left,
        hsides, or_assoc]

end Sided

namespace CityObject

/-- The materials bound for a theme at the targets of an object, in the order
of the visit. -/
def materialsFor (object : CityObject) (theme : String) :
    List MaterialBinding :=
  object.targets.flatMap fun b => b.materials.boundFor theme

/-- The textures bound for a theme at the targets of an object, in the order
of the visit. -/
def texturesFor (object : CityObject) (theme : String) :
    List TextureBinding :=
  object.targets.flatMap fun b => b.textures.boundFor theme

/-- Whether some target of an object binds a material or a texture for a
theme. -/
def Uses (object : CityObject) (theme : String) : Prop :=
  ∃ b ∈ object.targets, ∃ side,
    theme ∈ b.materialThemes side ∨ theme ∈ b.textureThemes side

end CityObject

namespace ThemedAppearances

theorem materials_foldl_addTarget (targets : List Bindings)
    (t : ThemedAppearances) :
    (targets.foldl addTarget t).materials =
      targets.foldl (fun d b =>
        (d.pushAll b.materials.front).pushAll b.materials.back)
        t.materials := by
  induction targets generalizing t with
  | nil => rfl
  | cons b rest ih => rw [List.foldl_cons, ih, List.foldl_cons, addTarget]

theorem textures_foldl_addTarget (targets : List Bindings)
    (t : ThemedAppearances) :
    (targets.foldl addTarget t).textures =
      targets.foldl (fun d b =>
        (d.pushAll b.textures.front).pushAll b.textures.back)
        t.textures := by
  induction targets generalizing t with
  | nil => rfl
  | cons b rest ih => rw [List.foldl_cons, ih, List.foldl_cons, addTarget]

/-- The materials of a theme are all that are bound for it, in order. -/
theorem materialsOf_collect (object : CityObject) (theme : String) :
    (collect object).materialsOf theme = object.materialsFor theme := by
  rw [collect_eq_foldl, materialsOf, materials_foldl_addTarget]
  exact Sided.listAt_foldl Bindings.materials object.targets .empty theme

/-- The textures of a theme are all that are bound for it, in order. -/
theorem texturesOf_collect (object : CityObject) (theme : String) :
    (collect object).texturesOf theme = object.texturesFor theme := by
  rw [collect_eq_foldl, texturesOf, textures_foldl_addTarget]
  exact Sided.listAt_foldl Bindings.textures object.targets .empty theme

theorem mem_themes_iff {t : ThemedAppearances} {theme : String} :
    theme ∈ t.themes ↔ theme ∈ t.materials.keys ∨ theme ∈ t.textures.keys := by
  have hfold : ∀ (l : List String) (d : Dictionary Unit),
      theme ∈ (l.foldl (fun d theme => d.insert theme ()) d).keys ↔
        theme ∈ d.keys ∨ theme ∈ l := by
    intro l
    induction l with
    | nil =>
        intro d
        simp
    | cons other rest ih =>
        intro d
        rw [List.foldl_cons, ih, Dictionary.mem_keys_insert, List.mem_cons,
          or_comm (a := theme = other), or_assoc]
  have hempty : theme ∉ (Dictionary.empty : Dictionary Unit).keys :=
    List.not_mem_nil
  rw [themes, hfold, List.mem_append]
  exact or_iff_right hempty

/-- The themes are those that some target binds something for. -/
theorem mem_themes_collect {object : CityObject} {theme : String} :
    theme ∈ (collect object).themes ↔ object.Uses theme := by
  have hmaterials : theme ∉ empty.materials.keys := List.not_mem_nil
  have htextures : theme ∉ empty.textures.keys := List.not_mem_nil
  rw [mem_themes_iff, collect_eq_foldl, materials_foldl_addTarget,
    textures_foldl_addTarget, Sided.mem_keys_foldl (f := Bindings.materials),
    Sided.mem_keys_foldl (f := Bindings.textures), or_iff_right hmaterials,
    or_iff_right htextures]
  constructor
  · rintro (⟨b, hb, side, hside⟩ | ⟨b, hb, side, hside⟩)
    · exact ⟨b, hb, side, Or.inl hside⟩
    · exact ⟨b, hb, side, Or.inr hside⟩
  · rintro ⟨b, hb, side, hside | hside⟩
    · exact Or.inl ⟨b, hb, side, hside⟩
    · exact Or.inr ⟨b, hb, side, hside⟩

theorem ascending_themes (t : ThemedAppearances) :
    t.themes.Pairwise fun a b => a < b :=
  Dictionary.ascending_keys _

/-- The themes come in the order of their bytes. -/
theorem ascending_bytes_themes (t : ThemedAppearances) :
    t.themes.Pairwise fun a b =>
      Utf8.encode a.toList < Utf8.encode b.toList :=
  Dictionary.ascending_bytes_keys _

end ThemedAppearances

end CityMarkup
