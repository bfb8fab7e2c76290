import CityMarkup.Proofs.Storage.Saving

/-!
# Saving is all or nothing

Not everything about saving a file is settled by the files.  The temporary file
may be given any name that is not in use, and making, filling or moving it may
fail for reasons of its own, filling also after some of the bytes.  Whatever
happens, the temporary file is gone in the end.  Then either the file at the
target has been replaced, or the files are what they were.
-/

namespace CityMarkup

namespace Files

/-! ## Circumstances -/

/-- What decides about saving a file besides the files: the name of the
temporary file, and what goes wrong when it is made, filled or moved.  Filling
may break off after some of the bytes. -/
structure Circumstances where
  name : String
  making : Option IoFault
  filling : Option (Nat × IoFault)
  moving : Option IoFault

/-- Nothing goes wrong, and the temporary file has the fresh name for a
path. -/
def calm (files : Files) (path : String) : Circumstances :=
  ⟨files.freshName path, none, none, none⟩

/-- Where the temporary file for a path is made.  Nothing may stand there
yet. -/
def Circumstances.temporary (c : Circumstances) (files : Files)
    (path : String) : Except IoFault (List String) :=
  match c.making, files.temporaryDirectory path with
  | some fault, _ => .error fault
  | none, .error fault => .error fault
  | none, .ok directory =>
    if (files.get? (directory ++ [c.name])).isSome then
      .error (.other "File exists (os error 17)")
    else
      .ok (directory ++ [c.name])

/-- Saves bytes at a path under some circumstances. -/
def saveUnder (c : Circumstances) (path : String) (bytes : List UInt8)
    (files : Files) : Except IoFault Unit × Files :=
  match c.temporary files path with
  | .error fault => (.error fault, files)
  | .ok temporary =>
    let created := files.put temporary (.file [])
    match c.filling with
    | some (count, fault) =>
      let begun := created.put temporary (.file (bytes.take count))
      (.error fault, begun.remove temporary)
    | none =>
      if files.hasRoom bytes.length then
        let filled := created.put temporary (.file bytes)
        match c.moving with
        | some fault => (.error fault, filled.remove temporary)
        | none => persist path temporary bytes filled
      else
        (.error .noSpace, created.remove temporary)

/-- Whether circumstances allow saving so many bytes at a path. -/
structure Circumstances.Allow (c : Circumstances) (files : Files)
    (path : String) (size : Nat) : Prop where
  making : ∃ temporary, c.temporary files path = .ok temporary
  filling : c.filling = none
  room : files.hasRoom size = true
  moving : c.moving = none
  target : ∃ place, files.target path = .ok place

variable {files : Files} {path : String}

theorem temporary_calm (files : Files) (path : String) :
    (files.calm path).temporary files path =
      (files.temporaryDirectory path).map fun directory =>
        directory ++ [files.freshName path] := by
  rw [Circumstances.temporary, calm]
  cases files.temporaryDirectory path with
  | error fault => rfl
  | ok directory =>
      simp only [get?_freshName]
      rfl

/-- Saving is what happens if nothing goes wrong besides. -/
theorem saveUnder_calm (files : Files) (path : String) (bytes : List UInt8) :
    files.saveUnder (files.calm path) path bytes = files.save path bytes := by
  rw [saveUnder, save, temporary_calm]
  cases files.temporaryDirectory path with
  | error fault => rfl
  | ok directory => rfl

theorem allow_calm {size : Nat} :
    (files.calm path).Allow files path size ↔ files.Accepts path size := by
  constructor
  · rintro ⟨⟨temporary, hmaking⟩, -, hroom, -, htarget⟩
    refine ⟨?_, hroom, htarget⟩
    rw [temporary_calm] at hmaking
    cases hdirectory : files.temporaryDirectory path with
    | error fault =>
        rw [hdirectory] at hmaking
        cases hmaking
    | ok directory => exact ⟨directory, rfl⟩
  · rintro ⟨⟨directory, hdirectory⟩, hroom, htarget⟩
    refine ⟨⟨directory ++ [files.freshName path], ?_⟩, rfl, hroom, rfl,
      htarget⟩
    rw [temporary_calm, hdirectory]
    rfl

/-! ## The temporary file -/

theorem get?_temporary {c : Circumstances} {temporary : List String}
    (h : c.temporary files path = .ok temporary) :
    files.get? temporary = none := by
  rw [Circumstances.temporary] at h
  split at h
  · cases h
  · cases h
  · split at h
    · cases h
    · rename_i hfree
      obtain rfl := Except.ok.inj h
      exact Option.not_isSome_iff_eq_none.mp hfree

/-- The temporary file is made where nothing stood, and making it touches
nothing else. -/
theorem get?_made {c : Circumstances} {temporary : List String}
    (h : c.temporary files path = .ok temporary) (entry : FileEntry) :
    files.get? temporary = none ∧
      ∀ other, other ≠ temporary →
        (files.put temporary entry).get? other = files.get? other :=
  ⟨get?_temporary h, fun _ hother => get?_put_of_ne hother entry⟩

section Temporary

variable {place : List String}

theorem ne_nil_of_get?_eq_none (h : files.get? place = none) : place ≠ [] := by
  rintro rfl
  cases h

theorem remove_of_get?_eq_none (h : files.get? place = none) :
    files.remove place = files := by
  have hnone := h
  rw [get?_of_ne_nil _ (ne_nil_of_get?_eq_none h), Option.map_eq_none_iff,
    List.find?_eq_none] at hnone
  have hentries : files.entries.filter (fun other => other.1 != place) =
      files.entries := by
    rw [List.filter_eq_self]
    intro entry hentry
    have hne := hnone entry hentry
    rw [Bool.not_eq_true] at hne
    rw [bne, hne]
    rfl
  rw [remove, hentries]

theorem remove_put (files : Files) (place : List String) (entry : FileEntry) :
    (files.put place entry).remove place = files.remove place := by
  rw [put, remove, remove]
  simp

/-- Nothing is left of a file that was made where nothing stood. -/
theorem remove_put_of_get?_eq_none (h : files.get? place = none)
    (entry : FileEntry) : (files.put place entry).remove place = files := by
  rw [remove_put, remove_of_get?_eq_none h]

theorem remove_put_put_of_get?_eq_none (h : files.get? place = none)
    (first second : FileEntry) :
    ((files.put place first).put place second).remove place = files := by
  rw [remove_put, remove_put_of_get?_eq_none h]

/-- A file in a place where nothing stood makes no directory. -/
theorem get?_put_put_eq_directory (h : files.get? place = none)
    (first second : List UInt8) (other : List String) :
    ((files.put place (.file first)).put place (.file second)).get? other =
        some .directory ↔
      files.get? other = some .directory := by
  by_cases hother : other = place
  · rw [hother, get?_put_self (ne_nil_of_get?_eq_none h), h]
    exact iff_of_false (by rintro ⟨⟩) (by rintro ⟨⟩)
  · rw [get?_put_of_ne hother, get?_put_of_ne hother]

end Temporary

theorem Reaches.target {outer directory : List String} {last : String}
    (h : files.Reaches path outer last directory) :
    files.target path = .ok (directory ++ [last]) := by
  obtain ⟨hempty, hdot, hup⟩ : last ≠ "" ∧ last ≠ "." ∧ last ≠ ".." := by
    simpa using h.named
  obtain ⟨hnul, hsize⟩ : holdsNul path = false ∧
      path.utf8ByteSize ≤ longestPath := by
    simpa [isUsable] using h.usable
  have hpath : path ≠ "" := by
    rintro rfl
    have hparts : [""] = outer ++ [last] := h.parts
    have hlast := congrArg List.getLast? hparts
    rw [List.getLast?_concat] at hlast
    exact hempty (Option.some.inj hlast).symm
  have hreverse : (Files.parts path).reverse = last :: outer.reverse := by
    rw [h.parts, List.reverse_append]
    rfl
  have hdrop : (last :: outer.reverse).dropWhile (· == "") =
      last :: outer.reverse :=
    List.dropWhile_cons_of_neg (by simpa using hempty)
  rw [Files.target, hnul, hreverse]
  simp [hpath, Nat.not_lt.mpr hsize, hdrop, h.walk, hdot, hup,
    Nat.not_lt.mpr h.short, hempty, h.free]

/-- Where the directories are the same, so is the target of a path. -/
theorem target_of_directories {other : Files} {place : List String}
    (h : ∀ place, other.get? place = some .directory ↔
      files.get? place = some .directory)
    (htarget : other.target path = .ok place) :
    files.target path = .ok place := by
  obtain ⟨outer, last, directory, hreaches, rfl⟩ := exists_reaches htarget
  exact Reaches.target
    { usable := hreaches.usable
      parts := hreaches.parts
      named := hreaches.named
      short := hreaches.short
      walk := walk_of_directories (fun place => (h place).mp) hreaches.walk
      free := fun hdirectory => hreaches.free ((h _).mpr hdirectory) }

/-! ## All or nothing -/

/-- What becomes of saving bytes at a path.  If it is allowed, they are put at
the target of the path and nothing else is done.  If not, there is a fault and
nothing is done. -/
inductive AllOrNothing (files : Files) (path : String) (bytes : List UInt8)
    (allowed : Prop) : Except IoFault Unit × Files → Prop where
  | all {place : List String} (h : allowed)
      (htarget : files.target path = .ok place) :
      AllOrNothing files path bytes allowed
        (.ok (), files.put place (.file bytes))
  | nothing (h : ¬allowed) (fault : IoFault) :
      AllOrNothing files path bytes allowed (.error fault, files)

/-- Saving is all or nothing under all circumstances. -/
theorem allOrNothing_saveUnder (c : Circumstances) (path : String)
    (bytes : List UInt8) (files : Files) :
    files.AllOrNothing path bytes (c.Allow files path bytes.length)
      (files.saveUnder c path bytes) := by
  rw [saveUnder]
  cases hmaking : c.temporary files path with
  | error fault =>
      refine .nothing (fun h => ?_) fault
      obtain ⟨temporary, htemporary⟩ := h.making
      rw [hmaking] at htemporary
      cases htemporary
  | ok temporary =>
      have hfree := get?_temporary hmaking
      have hdirectories := get?_put_put_eq_directory hfree [] bytes
      simp only
      cases hfilling : c.filling with
      | some broken =>
          simp only [remove_put_put_of_get?_eq_none hfree]
          refine .nothing (fun h => ?_) broken.2
          rw [h.filling] at hfilling
          cases hfilling
      | none =>
          simp only
          by_cases hroom : files.hasRoom bytes.length = true
          · rw [if_pos hroom]
            cases hmoving : c.moving with
            | some fault =>
                simp only [remove_put_put_of_get?_eq_none hfree]
                refine .nothing (fun h => ?_) fault
                rw [h.moving] at hmoving
                cases hmoving
            | none =>
                simp only [persist, remove_put_put_of_get?_eq_none hfree]
                -- The filled temporary file does not change the target.
                split
                · rename_i fault hfault
                  refine .nothing (fun h => ?_) fault
                  obtain ⟨place, htarget⟩ := h.target
                  rw [target_of_directories
                    (fun other => (hdirectories other).symm) htarget] at hfault
                  cases hfault
                · rename_i place hplace
                  have htarget := target_of_directories hdirectories hplace
                  exact .all ⟨⟨temporary, hmaking⟩, hfilling, hroom, hmoving,
                    place, htarget⟩ htarget
          · rw [if_neg hroom, remove_put_of_get?_eq_none hfree]
            exact .nothing (fun h => hroom h.room) .noSpace

/-- What is left when the file at the target of a path has been replaced: the
file holds the bytes, is found under the path, and all else is as it was. -/
structure Replaced (files : Files) (path : String) (bytes : List UInt8)
    (after : Files) : Prop where
  content : after.contentAt? path = some bytes
  only : ∃ place, files.target path = .ok place ∧
    after = files.put place (.file bytes) ∧
    after.get? place = some (.file bytes) ∧
    ∀ other, other ≠ place → after.get? other = files.get? other

theorem replaced_put {place : List String}
    (h : files.target path = .ok place) (bytes : List UInt8) :
    files.Replaced path bytes (files.put place (.file bytes)) := by
  obtain ⟨outer, last, directory, hreaches, rfl⟩ := exists_reaches h
  let place := directory ++ [last]
  have hfile : (files.put place (.file bytes)).get? place =
      some (.file bytes) := get?_put_self (by simp [place]) _
  have hother : ∀ other, other ≠ place →
      (files.put place (.file bytes)).get? other = files.get? other :=
    fun _ hne => get?_put_of_ne hne _
  exact
    { content := hreaches.contentAt? hfile hother
      only := ⟨_, h, rfl, hfile, hother⟩ }

end Files

end CityMarkup
