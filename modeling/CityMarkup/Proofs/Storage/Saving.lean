import CityMarkup.Storage.Files
import Mathlib.Data.List.Basic

/-!
# Saved files

The temporary file has a name that occurs neither in the path nor among the
files.  No step of a path meets it, so the target is the same while it is
there.  Once it is moved, the target holds all bytes, the way to the target is
what it was, and nothing else has changed.
-/

namespace CityMarkup

namespace Files

variable {files : Files} {path : String}

/-! ## Entries -/

section Entries

variable {place other : List String}

theorem get?_of_ne_nil (files : Files) (h : place ≠ []) :
    files.get? place =
      (files.entries.find? fun entry => entry.1 == place).map (·.2) := by
  rw [get?, List.isEmpty_eq_false_iff.mpr h]
  rfl

theorem find?_filter_of_ne (h : other ≠ place)
    (entries : List (List String × FileEntry)) :
    (entries.filter fun entry => entry.1 != place).find?
        (fun entry => entry.1 == other) =
      entries.find? fun entry => entry.1 == other := by
  rw [List.find?_filter]
  congr 1
  funext entry
  by_cases heq : entry.1 = other
  · have hne : entry.1 ≠ place := heq.trans_ne h
    simp [heq, h]
  · simp [heq]

theorem get?_remove_of_ne (h : other ≠ place) :
    (files.remove place).get? other = files.get? other := by
  rw [get?, get?, remove, find?_filter_of_ne h]

theorem get?_remove_self (h : place ≠ []) :
    (files.remove place).get? place = none := by
  rw [get?_of_ne_nil _ h, remove, List.find?_filter, Option.map_eq_none_iff,
    List.find?_eq_none]
  intro entry _
  simp

theorem get?_put_of_ne (h : other ≠ place) (entry : FileEntry) :
    (files.put place entry).get? other = files.get? other := by
  have hentry : ((place == other) = false) := beq_false_of_ne h.symm
  rw [get?, get?, put, List.find?_append, find?_filter_of_ne h,
    List.find?_cons, hentry, List.find?_nil, Option.or_none]

theorem get?_put_self (h : place ≠ []) (entry : FileEntry) :
    (files.put place entry).get? place = some entry := by
  have hnone : (files.remove place).get? place = none := get?_remove_self h
  rw [get?_of_ne_nil _ h, Option.map_eq_none_iff, remove] at hnone
  rw [get?_of_ne_nil _ h, put, List.find?_append, hnone]
  simp

end Entries

/-! ## Walking -/

/-- Where the same stands at a step, the step leads to the same place. -/
theorem step_congr {other : Files} {place : List String} {name : String}
    (h : other.get? (place ++ [name]) = files.get? (place ++ [name])) :
    other.step place name = files.step place name := by
  rw [step, step, h]

theorem walk_congr {other : Files} {names : List String}
    (h : ∀ place, ∀ name ∈ names,
      other.get? (place ++ [name]) = files.get? (place ++ [name])) :
    other.walk names = files.walk names := by
  rw [walk, walk]
  generalize ([] : List String) = start
  induction names generalizing start with
  | nil => rfl
  | cons name rest ih =>
      have hrest := fun place other hmem =>
        h place other (List.mem_cons_of_mem name hmem)
      rw [List.foldlM_cons, List.foldlM_cons,
        step_congr (h start name List.mem_cons_self)]
      congr 1
      funext next
      exact ih hrest next

section Directories

variable {other : Files} (h : ∀ place, files.get? place = some .directory →
  other.get? place = some .directory)
include h

theorem step_of_directories {place next : List String} {name : String}
    (hstep : files.step place name = .ok next) :
    other.step place name = .ok next := by
  rw [step] at hstep ⊢
  by_cases hup : name = ".."
  · rw [if_pos hup] at hstep ⊢
    exact hstep
  · rw [if_neg hup] at hstep ⊢
    by_cases hlong : longestName < name.utf8ByteSize
    · rw [if_pos hlong] at hstep
      cases hstep
    · rw [if_neg hlong] at hstep ⊢
      cases hentry : files.get? (place ++ [name]) with
      | none =>
          rw [hentry] at hstep
          cases hstep
      | some entry =>
          rw [hentry] at hstep
          cases entry with
          | file bytes => cases hstep
          | directory =>
              rw [h _ hentry]
              exact hstep

/-- A way through directories stays open as long as they stay directories. -/
theorem walk_of_directories {names place : List String}
    (hwalk : files.walk names = .ok place) : other.walk names = .ok place := by
  rw [walk] at hwalk ⊢
  generalize ([] : List String) = start at hwalk ⊢
  induction names generalizing start with
  | nil => exact hwalk
  | cons name rest ih =>
      rw [List.foldlM_cons] at hwalk ⊢
      cases hstep : files.step start name with
      | error fault =>
          rw [hstep] at hwalk
          cases hwalk
      | ok next =>
          rw [hstep] at hwalk
          rw [step_of_directories h hstep]
          exact ih next hwalk

end Directories

/-! ## Names that are not in use -/

theorem length_lt_freshName (files : Files) (path : String) {name : String}
    (h : name ∈ parts path ∨ ∃ entry ∈ files.entries, name ∈ entry.1) :
    name.length < (files.freshName path).length := by
  let names := parts path ++ files.entries.flatMap fun entry => entry.1
  have hmem : name ∈ names := by
    rw [List.mem_append, List.mem_flatMap]
    exact h
  have hsize : name.toList.length ≤ (names.flatMap String.toList).length := by
    rw [List.flatMap_def]
    exact (List.sublist_flatten_of_mem (List.mem_map_of_mem hmem)).length_le
  rw [freshName, String.length_ofList, List.length_cons, List.length_map]
  exact Nat.lt_succ_of_le hsize

theorem ne_freshName_of_mem_parts {name : String} (h : name ∈ parts path) :
    name ≠ files.freshName path := by
  intro heq
  have hlt := files.length_lt_freshName path (Or.inl h)
  rw [heq] at hlt
  exact Nat.lt_irrefl _ hlt

/-- Nothing stands at the place of the temporary file. -/
theorem get?_freshName (directory : List String) :
    files.get? (directory ++ [files.freshName path]) = none := by
  have hne : directory ++ [files.freshName path] ≠ [] := by simp
  rw [get?_of_ne_nil _ hne, Option.map_eq_none_iff, List.find?_eq_none]
  intro entry hmem heq
  have hname : files.freshName path ∈ entry.1 := by
    rw [beq_iff_eq.mp heq]
    simp
  exact Nat.lt_irrefl _
    (files.length_lt_freshName path (Or.inr ⟨entry, hmem, hname⟩))

/-! ## The target -/

theorem mem_parts_of_dropWhile {last name : String} {outer : List String}
    (h : (parts path).reverse.dropWhile (· == "") = last :: outer)
    (hname : name ∈ last :: outer) : name ∈ parts path := by
  have hsuffix := List.dropWhile_suffix (l := (parts path).reverse) (· == "")
  rw [h] at hsuffix
  exact List.mem_reverse.mp (hsuffix.mem hname)

theorem ne_empty_of_dropWhile {names outer : List String} {last : String}
    (h : names.dropWhile (· == "") = last :: outer) : last ≠ "" := by
  have hne := List.head?_dropWhile_not (· == "") names
  rw [h] at hne
  exact ne_of_beq_false hne

theorem parts_of_dropWhile {outer : List String} {last : String}
    (h : (parts path).reverse.dropWhile (· == "") = last :: outer)
    (hslash : (parts path).reverse.head? ≠ some "") :
    parts path = outer.reverse ++ [last] := by
  have hall : (parts path).reverse.dropWhile (· == "") =
      (parts path).reverse := by
    cases hnames : (parts path).reverse with
    | nil => rfl
    | cons name rest =>
        rw [hnames] at hslash
        have hne : (name == "") = false :=
          beq_false_of_ne fun heq => hslash (congrArg some heq)
        rw [List.dropWhile_cons, hne]
        rfl
  rw [← List.reverse_reverse (parts path), ← hall, h, List.reverse_cons]

/-- Where the same stands at all steps of a path, the target is the same. -/
theorem target_congr {other : Files}
    (h : ∀ place, ∀ name ∈ parts path,
      other.get? (place ++ [name]) = files.get? (place ++ [name])) :
    other.target path = files.target path := by
  rw [target, target]
  cases hnames : (parts path).reverse.dropWhile (· == "") with
  | nil => simp only [hnames]
  | cons last outer =>
      have hwalk : other.walk (steps outer.reverse) =
          files.walk (steps outer.reverse) := by
        apply walk_congr
        intro place name hname
        have houter := List.mem_reverse.mp (List.mem_of_mem_filter hname)
        exact h place name (mem_parts_of_dropWhile hnames
          (List.mem_cons_of_mem last houter))
      have hlast := fun place =>
        h place last (mem_parts_of_dropWhile hnames List.mem_cons_self)
      simp only [hnames, hwalk, hlast]

/-- What is known of a path that leads to a target. -/
structure Reaches (files : Files) (path : String) (outer : List String)
    (last : String) (directory : List String) : Prop where
  usable : isUsable path = true
  parts : parts path = outer ++ [last]
  named : last ∉ ["", ".", ".."]
  short : last.utf8ByteSize ≤ longestName
  walk : files.walk (steps outer) = .ok directory
  free : files.get? (directory ++ [last]) ≠ some .directory

theorem exists_reaches {place : List String}
    (h : files.target path = .ok place) :
    ∃ outer last directory, files.Reaches path outer last directory ∧
      place = directory ++ [last] := by
  rw [target] at h
  -- Each test that the path has passed gives one of the facts.
  split at h
  · cases h
  rename_i hnul
  split at h
  · cases h
  split at h
  · cases h
  rename_i hlong
  simp only at h
  cases hnames : (Files.parts path).reverse.dropWhile (· == "") with
  | nil =>
      rw [hnames] at h
      cases h
  | cons last outer =>
      rw [hnames] at h
      simp only at h
      cases hwalk : files.walk (steps outer.reverse) with
      | error fault =>
          rw [hwalk] at h
          cases h
      | ok directory =>
          rw [hwalk] at h
          simp only at h
          split at h
          · cases h
          rename_i hdots
          split at h
          · cases h
          rename_i hshort
          split at h
          · cases h
          rename_i hslash
          split at h
          · cases h
          rename_i hfree
          obtain rfl := Except.ok.inj h
          have hparts := parts_of_dropWhile hnames hslash
          refine ⟨outer.reverse, last, directory, ?_, rfl⟩
          exact
            { usable := by
                rw [isUsable, Bool.eq_false_iff.mpr hnul,
                  decide_eq_true (Nat.le_of_not_lt hlong)]
                rfl
              parts := hparts
              named := by
                rw [not_or] at hdots
                simp [hdots, ne_empty_of_dropWhile hnames]
              short := Nat.le_of_not_lt hshort
              walk := hwalk
              free := hfree }

/-! ## Saving -/

/-- Whether saving so many bytes at a path does not fail: the temporary file
can be made and filled, and it can be moved to the path. -/
structure Accepts (files : Files) (path : String) (size : Nat) : Prop where
  temporary : ∃ directory, files.temporaryDirectory path = .ok directory
  room : files.hasRoom size = true
  target : ∃ place, files.target path = .ok place

/-- The target does not change while the temporary file is there. -/
theorem target_put_freshName (directory : List String)
    (first second : FileEntry) :
    ((files.put (directory ++ [files.freshName path]) first).put
        (directory ++ [files.freshName path]) second).target path =
      files.target path := by
  apply target_congr
  intro place name hname
  have hne : place ++ [name] ≠ directory ++ [files.freshName path] := by
    intro heq
    have hlast := (List.append_inj' heq rfl).2
    exact ne_freshName_of_mem_parts hname (List.singleton_inj.mp hlast)
  rw [get?_put_of_ne hne, get?_put_of_ne hne]

/-- Moving the temporary file either works, and then the bytes stand at the
target of the path, or there is no target, and then the fault is reported.  The
temporary file is gone in both cases, and nothing else is touched. -/
theorem get?_persist {temporary : List String} (h : temporary ≠ [])
    (path : String) (bytes : List UInt8) (files : Files) :
    (∀ place, files.target path = .ok place →
      (persist path temporary bytes files).1 = .ok () ∧
      (persist path temporary bytes files).2.get? place =
        some (.file bytes)) ∧
    (∀ fault, files.target path = .error fault →
      (persist path temporary bytes files).1 = .error fault) ∧
    (files.target path ≠ .ok temporary →
      (persist path temporary bytes files).2.get? temporary = none) ∧
    ∀ other, other ≠ temporary → files.target path ≠ .ok other →
      (persist path temporary bytes files).2.get? other =
        files.get? other := by
  cases htarget : files.target path with
  | error fault =>
      have hrun : persist path temporary bytes files =
          (.error fault, files.remove temporary) := by
        rw [persist, htarget]
      rw [hrun]
      refine ⟨by rintro _ ⟨⟩, ?_, fun _ => get?_remove_self h, ?_⟩
      · rintro _ ⟨⟩
        rfl
      · exact fun other hother _ => get?_remove_of_ne hother
  | ok place =>
      have hrun : persist path temporary bytes files =
          (.ok (), (files.remove temporary).put place (.file bytes)) := by
        rw [persist, htarget]
      obtain ⟨outer, last, directory, -, hplace⟩ := exists_reaches htarget
      have hne : place ≠ [] := by simp [hplace]
      rw [hrun]
      refine ⟨?_, by rintro _ ⟨⟩, fun hother => ?_, fun other hother hfree => ?_⟩
      · rintro _ ⟨⟩
        exact ⟨rfl, get?_put_self hne _⟩
      · have htemporary : temporary ≠ place := by
          rintro rfl
          exact hother rfl
        rw [get?_put_of_ne htemporary, get?_remove_self h]
      · have hdifferent : other ≠ place := by
          rintro rfl
          exact hfree rfl
        rw [get?_put_of_ne hdifferent, get?_remove_of_ne hother]

theorem save_eq_persist {bytes : List UInt8} {directory : List String}
    (hdirectory : files.temporaryDirectory path = .ok directory)
    (hroom : files.hasRoom bytes.length = true) :
    let temporary := directory ++ [files.freshName path]
    files.save path bytes = persist path temporary bytes
      ((files.put temporary (.file [])).put temporary (.file bytes)) := by
  rw [save, hdirectory]
  exact if_pos hroom

/-- Saving puts the bytes at the target and leaves everything else alone. -/
theorem exists_save {bytes : List UInt8} {place : List String}
    (h : files.Accepts path bytes.length)
    (hplace : files.target path = .ok place) :
    ∃ saved : Files, files.save path bytes = (.ok (), saved) ∧
      saved.get? place = some (.file bytes) ∧
      ∀ other, other ≠ place → saved.get? other = files.get? other := by
  obtain ⟨⟨directory, hdirectory⟩, hroom, -⟩ := h
  let temporary := directory ++ [files.freshName path]
  let filled := (files.put temporary (.file [])).put temporary (.file bytes)
  have hrun : files.save path bytes = persist path temporary bytes filled :=
    save_eq_persist hdirectory hroom
  have htarget : filled.target path = .ok place :=
    (target_put_freshName directory _ _).trans hplace
  have hne : temporary ≠ [] := by simp [temporary]
  obtain ⟨hmoved, -, hgone, hrest⟩ := get?_persist hne path bytes filled
  obtain ⟨hworks, hfile⟩ := hmoved place htarget
  refine ⟨_, hrun.trans (Prod.ext hworks rfl), hfile, fun other hother => ?_⟩
  have hfree : filled.target path ≠ .ok other := by
    rw [htarget]
    rintro ⟨⟩
    exact hother rfl
  -- Where the temporary file was, nothing stood before.
  by_cases htemporary : other = temporary
  · subst htemporary
    rw [hgone hfree, get?_freshName]
  · rw [hrest other htemporary hfree, get?_put_of_ne htemporary,
      get?_put_of_ne htemporary]

/-- The file at a target is found under the path, once it is there. -/
theorem Reaches.contentAt? {outer directory : List String} {last : String}
    (h : files.Reaches path outer last directory) {saved : Files}
    {bytes : List UInt8}
    (hfile : saved.get? (directory ++ [last]) = some (.file bytes))
    (hother : ∀ other, other ≠ directory ++ [last] →
      saved.get? other = files.get? other) :
    saved.contentAt? path = some bytes := by
  obtain ⟨hempty, hdot, hup⟩ : last ≠ "" ∧ last ≠ "." ∧ last ≠ ".." := by
    simpa using h.named
  have hsteps : steps (Files.parts path) = steps outer ++ [last] := by
    rw [h.parts, steps, List.filter_append]
    simp [hempty, hdot, steps]
  have hwalk : saved.walk (steps outer) = .ok directory := by
    apply walk_of_directories _ h.walk
    intro place hdirectory
    have hne : place ≠ directory ++ [last] := by
      rintro rfl
      exact h.free hdirectory
    rw [hother place hne, hdirectory]
  have hname : endsWithName path = true := by
    rw [endsWithName, h.parts, List.getLast?_concat]
    simp [hempty, hdot, hup]
  have hplace : saved.filePlace? path = some (directory ++ [last]) := by
    rw [filePlace?, h.usable, hname, hsteps, locate, List.dropLast_concat,
      List.getLast?_concat, hwalk]
    simp only [if_neg hup, if_neg (Nat.not_lt.mpr h.short)]
    rfl
  rw [Files.contentAt?, hplace, Option.bind_some, hfile]

/-- Files that do not fail hold exactly the bytes that were saved. -/
theorem save_of_accepts {bytes : List UInt8}
    (h : files.Accepts path bytes.length) :
    (files.save path bytes).1 = .ok () ∧
      (files.save path bytes).2.contentAt? path = some bytes := by
  obtain ⟨place, hplace⟩ := h.target
  obtain ⟨saved, hsaved, hfile, hother⟩ := exists_save h hplace
  obtain ⟨outer, last, directory, hreaches, rfl⟩ := exists_reaches hplace
  rw [hsaved]
  exact ⟨rfl, hreaches.contentAt? hfile hother⟩

end Files

end CityMarkup
