import CityMarkup.Proofs.Appearance.Grouping
import Mathlib.Data.List.Induction
import Mathlib.Data.List.Nodup

/-!
# Binding again

Bindings are made by calls, each of which gives a value for a theme on one side
of a target.  What is looked up afterwards is the value of the last call for the
same kind, theme and side, and nothing else is kept: bindings with the same
lookups are equal, so that the order of calls for different places does not
matter.
-/

namespace CityMarkup

/-! ## Dictionaries with the same lookups -/

namespace Dictionary

variable {α : Type} {d e : Dictionary α}

theorem nodup_keys (d : Dictionary α) : d.keys.Nodup :=
  d.ascending_keys.imp String.ne_of_lt

theorem mem_entries_iff {entry : String × α} :
    entry ∈ d.entries ↔ d.get? entry.1 = some entry.2 := by
  have hfind : ∀ {value}, d.get? entry.1 = some value →
      ∃ found ∈ d.entries, found.1 = entry.1 ∧ found.2 = value := by
    intro value hget
    obtain ⟨found, hfound, hvalue⟩ := Option.map_eq_some_iff.mp hget
    have hkey := List.find?_some hfound
    exact ⟨found, List.mem_of_find?_eq_some hfound, eq_of_beq hkey, hvalue⟩
  constructor
  · intro hentry
    have hkey : entry.1 ∈ d.keys := List.mem_map_of_mem hentry
    obtain ⟨value, hvalue⟩ :=
      Option.isSome_iff_exists.mp (mem_keys_iff.mp hkey)
    obtain ⟨found, hfound, hsame, rfl⟩ := hfind hvalue
    rw [hvalue, List.inj_on_of_nodup_map d.nodup_keys hfound hentry hsame]
  · intro hget
    obtain ⟨found, hfound, hkey, hvalue⟩ := hfind hget
    rw [← Prod.ext hkey hvalue]
    exact hfound

/-- A dictionary is known from what is looked up in it. -/
theorem eq_of_get?_eq (h : ∀ key, d.get? key = e.get? key) : d = e := by
  have hnodup : ∀ d : Dictionary α, d.entries.Nodup := fun d =>
    d.nodup_keys.of_map _
  have hmem : ∀ entry, entry ∈ d.entries ↔ entry ∈ e.entries := by
    intro entry
    rw [mem_entries_iff, mem_entries_iff, h]
  have hperm : d.entries.Perm e.entries :=
    (List.perm_ext_iff_of_nodup (hnodup d) (hnodup e)).mpr hmem
  have hentries : d.entries = e.entries := by
    refine hperm.eq_of_pairwise (fun a b _ _ hlt hgt => ?_) d.ascending
      e.ascending
    exact absurd hgt (String.lt_asymm hlt)
  cases d
  cases e
  cases hentries
  rfl

end Dictionary

/-! ## Calls for one kind -/

/-- A value for a theme on one side. -/
structure Placed (α : Type) where
  theme : String
  side : Side
  value : α
deriving DecidableEq, Repr

namespace Placed

variable {α : Type}

/-- Whether a value is for a theme on one side. -/
def isFor (theme : String) (side : Side) (p : Placed α) : Bool :=
  p.theme == theme && p.side == side

/-- The value that is given last for a theme on one side. -/
def last? (theme : String) (side : Side) (l : List (Placed α)) : Option α :=
  (l.filter (isFor theme side)).getLast?.map value

theorem isFor_iff {theme : String} {side : Side} {p : Placed α} :
    p.isFor theme side = true ↔ p.theme = theme ∧ p.side = side := by
  rw [isFor, Bool.and_eq_true, beq_iff_eq, beq_iff_eq]

theorem last?_concat (theme : String) (side : Side) (l : List (Placed α))
    (p : Placed α) :
    last? theme side (l ++ [p]) =
      if p.isFor theme side then some p.value else last? theme side l := by
  rw [last?, List.filter_append]
  by_cases h : p.isFor theme side = true
  · have hkept : [p].filter (isFor theme side) = [p] := by simp [h]
    rw [if_pos h, hkept, List.getLast?_concat, Option.map_some]
  · have hdropped : [p].filter (isFor theme side) = [] := by simp [h]
    rw [if_neg h, hdropped, List.append_nil, last?]

theorem last?_concat_self (l : List (Placed α)) (p : Placed α) :
    last? p.theme p.side (l ++ [p]) = some p.value := by
  rw [last?_concat, if_pos (isFor_iff.mpr ⟨rfl, rfl⟩)]

end Placed

namespace Sided

variable {α : Type} {s t : Sided α}

/-- Binds a value where it is for. -/
def put (s : Sided α) (p : Placed α) : Sided α :=
  s.bind p.theme p.side p.value

theorem get?_put (s : Sided α) (p : Placed α) (theme : String) (side : Side) :
    ((s.put p).on side).get? theme =
      if p.isFor theme side then some p.value
      else (s.on side).get? theme := by
  obtain ⟨key, place, value⟩ := p
  by_cases hside : place = side
  · subst hside
    have hput : (s.put ⟨key, place, value⟩).on place =
        (s.on place).insert key value := by
      cases place with
      | front => rfl
      | back => rfl
    rw [hput, Dictionary.get?_insert, Placed.isFor, beq_self_eq_true,
      Bool.and_true]
    simp only [beq_iff_eq]
  · have hput : (s.put ⟨key, place, value⟩).on side = s.on side := by
      cases place with
      | front =>
          cases side with
          | front => exact absurd rfl hside
          | back => rfl
      | back =>
          cases side with
          | front => rfl
          | back => exact absurd rfl hside
    have hother : ¬Placed.isFor theme side ⟨key, place, value⟩ = true := by
      rw [Placed.isFor_iff]
      exact fun h => hside h.2
    rw [hput, if_neg hother]

/-- What is looked up is the value that was given last. -/
theorem get?_foldl_put (l : List (Placed α)) (theme : String) (side : Side) :
    ((l.foldl put empty).on side).get? theme =
      Placed.last? theme side l := by
  induction l using List.reverseRecOn with
  | nil =>
      cases side with
      | front => rfl
      | back => rfl
  | append_singleton l p ih =>
      rw [List.foldl_append, List.foldl_cons, List.foldl_nil, get?_put, ih,
        Placed.last?_concat]

theorem eq_of_get?_eq
    (h : ∀ theme side, (s.on side).get? theme = (t.on side).get? theme) :
    s = t := by
  have hfront : s.front = t.front :=
    Dictionary.eq_of_get?_eq fun theme => h theme .front
  have hback : s.back = t.back :=
    Dictionary.eq_of_get?_eq fun theme => h theme .back
  cases s
  cases t
  cases hfront
  cases hback
  rfl

/-- Values for different places may be bound in either order. -/
theorem put_comm {p q : Placed α} (h : ¬(p.theme = q.theme ∧ p.side = q.side))
    (s : Sided α) : (s.put p).put q = (s.put q).put p := by
  apply eq_of_get?_eq
  intro theme side
  rw [get?_put, get?_put, get?_put, get?_put]
  by_cases hp : p.isFor theme side = true
  · have hq : ¬q.isFor theme side = true := by
      intro hq
      obtain ⟨htheme, hside⟩ := Placed.isFor_iff.mp hp
      obtain ⟨htheme', hside'⟩ := Placed.isFor_iff.mp hq
      exact h ⟨htheme.trans htheme'.symm, hside.trans hside'.symm⟩
    rw [if_neg hq, if_pos hp, if_pos hp]
  · rw [if_neg hp, if_neg hp]

end Sided

/-! ## Calls for both kinds -/

namespace Bindings

/-- A call that binds a material or a texture. -/
inductive Call where
  | material (p : Placed MaterialBinding)
  | texture (p : Placed TextureBinding)
deriving DecidableEq, Repr

namespace Call

/-- The material that a call binds. -/
def material? : Call → Option (Placed MaterialBinding)
  | material p => some p
  | texture _ => none

/-- The texture that a call binds. -/
def texture? : Call → Option (Placed TextureBinding)
  | material _ => none
  | texture p => some p

/-- Whether two calls are for the same kind, theme and side. -/
def SamePlace : Call → Call → Prop
  | material p, material q => p.theme = q.theme ∧ p.side = q.side
  | texture p, texture q => p.theme = q.theme ∧ p.side = q.side
  | _, _ => False

/-- Carries out a call. -/
def apply (b : Bindings) : Call → Bindings
  | material p => b.addMaterial p.theme p.side p.value
  | texture p => b.addTexture p.theme p.side p.value

theorem apply_comm {c d : Call} (h : ¬c.SamePlace d) (b : Bindings) :
    d.apply (c.apply b) = c.apply (d.apply b) := by
  cases c with
  | material p =>
      cases d with
      | material q =>
          exact congrArg (Bindings.mk · b.textures)
            (Sided.put_comm h b.materials)
      | texture q => rfl
  | texture p =>
      cases d with
      | material q => rfl
      | texture q =>
          exact congrArg (Bindings.mk b.materials ·)
            (Sided.put_comm h b.textures)

end Call

/-- What is bound after some calls on new bindings. -/
def after (calls : List Call) : Bindings :=
  calls.foldl Call.apply empty

theorem materials_after (calls : List Call) :
    (after calls).materials =
      (calls.filterMap Call.material?).foldl Sided.put .empty := by
  rw [List.foldl_filterMap]
  refine (List.foldl_hom materials fun b c => ?_).symm
  cases c with
  | material p => rfl
  | texture p => rfl

theorem textures_after (calls : List Call) :
    (after calls).textures =
      (calls.filterMap Call.texture?).foldl Sided.put .empty := by
  rw [List.foldl_filterMap]
  refine (List.foldl_hom textures fun b c => ?_).symm
  cases c with
  | material p => rfl
  | texture p => rfl

theorem material?_after (calls : List Call) (theme : String) (side : Side) :
    (after calls).material? theme side =
      Placed.last? theme side (calls.filterMap Call.material?) := by
  rw [material?, materials_after, Sided.get?_foldl_put]

theorem texture?_after (calls : List Call) (theme : String) (side : Side) :
    (after calls).texture? theme side =
      Placed.last? theme side (calls.filterMap Call.texture?) := by
  rw [texture?, textures_after, Sided.get?_foldl_put]

/-- Nothing is bound only if there was no call: the last one is found where it
is for. -/
theorem isEmpty_after (calls : List Call) :
    (after calls).isEmpty = true ↔ calls = [] := by
  constructor
  · intro hempty
    rw [isEmpty_iff] at hempty
    induction calls using List.reverseRecOn with
    | nil => rfl
    | append_singleton earlier c _ =>
        cases c with
        | material p =>
            have hnone := (hempty p.theme p.side).1
            rw [material?_after, List.filterMap_append] at hnone
            exact absurd hnone
              (Option.ne_none_iff_exists'.mpr ⟨_, Placed.last?_concat_self _ p⟩)
        | texture p =>
            have hnone := (hempty p.theme p.side).2
            rw [texture?_after, List.filterMap_append] at hnone
            exact absurd hnone
              (Option.ne_none_iff_exists'.mpr ⟨_, Placed.last?_concat_self _ p⟩)
  · rintro rfl
    rfl

theorem after_swap {c d : Call} (h : ¬c.SamePlace d)
    (calls rest : List Call) :
    after (calls ++ c :: d :: rest) = after (calls ++ d :: c :: rest) := by
  simp only [after, List.foldl_append, List.foldl_cons]
  rw [Call.apply_comm h]

/-- The last call wins.  After any calls on new bindings, what is looked up for
a theme on one side is the value of the last call of that kind for it, if there
was one.  The themes that are listed for a side are those that have a value
there, in the order of their bytes.  Nothing is bound exactly if there was no
call, and calls that differ in kind, side or theme may change places. -/
theorem after_holdsLast (calls : List Call) :
    let b := after calls
    (∀ theme side,
      b.material? theme side =
        Placed.last? theme side (calls.filterMap Call.material?) ∧
      b.texture? theme side =
        Placed.last? theme side (calls.filterMap Call.texture?)) ∧
    (∀ side,
      ((b.materialThemes side).Pairwise fun a b =>
        Utf8.encode a.toList < Utf8.encode b.toList) ∧
      ((b.textureThemes side).Pairwise fun a b =>
        Utf8.encode a.toList < Utf8.encode b.toList) ∧
      ∀ theme,
        (theme ∈ b.materialThemes side ↔
          (b.material? theme side).isSome = true) ∧
        (theme ∈ b.textureThemes side ↔
          (b.texture? theme side).isSome = true)) ∧
    (b.isEmpty = true ↔ calls = []) ∧
    ∀ (c d : Call) (rest : List Call), ¬c.SamePlace d →
      after (calls ++ c :: d :: rest) = after (calls ++ d :: c :: rest) := by
  refine ⟨fun theme side => ⟨?_, ?_⟩, fun side => ⟨?_, ?_, fun theme => ?_⟩,
    isEmpty_after calls, fun c d rest h => after_swap h calls rest⟩
  · exact material?_after calls theme side
  · exact texture?_after calls theme side
  · exact Dictionary.ascending_bytes_keys _
  · exact Dictionary.ascending_bytes_keys _
  · exact ⟨Dictionary.mem_keys_iff, Dictionary.mem_keys_iff⟩

/-- Tiles on the front of a roof may be bound before or after those on its back,
and new tiles replace the old ones on their side only. -/
theorem after_holdsLast_roof :
    let tiles : MaterialBinding := ⟨"roof",
      ⟨"tiles", [], .black, .black, .black, .zero, .zero, .zero, false⟩⟩
    let slate : MaterialBinding := ⟨"roof",
      ⟨"slate", [], .black, .black, .black, .zero, .zero, .zero, true⟩⟩
    let front : Call := .material ⟨"summer", .front, tiles⟩
    let back : Call := .material ⟨"summer", .back, tiles⟩
    let again : Call := .material ⟨"summer", .front, slate⟩
    ¬front.SamePlace back ∧
    after [front, back, again] = after [back, front, again] ∧
    (after [front, back, again]).material? "summer" .front = some slate ∧
    (after [front, back, again]).material? "summer" .back = some tiles := by
  intro tiles slate front back again
  have happart : ¬front.SamePlace back := by
    rintro ⟨-, hside⟩
    cases hside
  obtain ⟨hlast, -⟩ := after_holdsLast [front, back, again]
  obtain ⟨-, -, -, hswap⟩ := after_holdsLast []
  refine ⟨happart, hswap front back [again] happart, ?_, ?_⟩
  · exact (hlast "summer" .front).1.trans (by decide)
  · exact (hlast "summer" .back).1.trans (by decide)

end Bindings

end CityMarkup
