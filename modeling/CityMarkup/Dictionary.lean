/-!
# Dictionaries in key order

A dictionary holds at most one value for each key and keeps its entries in
increasing order of the keys, code point by code point.  The order is part of
the type, so two dictionaries with the same entries are equal.
-/

namespace CityMarkup

/-- Entries in strictly increasing order of their keys. -/
structure Dictionary (α : Type) where
  entries : List (String × α)
  ascending : entries.Pairwise fun a b => a.1 < b.1
deriving DecidableEq, Repr

namespace Dictionary

variable {α β : Type}

/-- The dictionary without entries. -/
def empty : Dictionary α :=
  ⟨[], .nil⟩

instance : Inhabited (Dictionary α) := ⟨empty⟩

/-- Puts an entry in its place among ordered entries, in the place of an
earlier entry for the same key if there is one. -/
def place (key : String) (value : α) :
    List (String × α) → List (String × α)
  | [] => [(key, value)]
  | entry :: rest =>
    if key < entry.1 then
      (key, value) :: entry :: rest
    else if entry.1 < key then
      entry :: place key value rest
    else
      (key, value) :: rest

theorem mem_place {key : String} {value : α} {entries : List (String × α)}
    {entry : String × α} (h : entry ∈ place key value entries) :
    entry = (key, value) ∨ entry ∈ entries := by
  induction entries with
  | nil => simpa [place] using h
  | cons first rest ih =>
    simp only [place] at h
    split at h
    · simpa using h
    · split at h
      · rcases List.mem_cons.1 h with h | h
        · simp [h]
        · rcases ih h with h | h <;> simp [h]
      · rcases List.mem_cons.1 h with h | h <;> simp [h]

theorem ascending_place (key : String) (value : α)
    {entries : List (String × α)}
    (h : entries.Pairwise fun a b => a.1 < b.1) :
    (place key value entries).Pairwise fun a b => a.1 < b.1 := by
  induction entries with
  | nil => simp [place]
  | cons first rest ih =>
    obtain ⟨hfirst, hrest⟩ := List.pairwise_cons.1 h
    simp only [place]
    split
    · rename_i hlt
      refine List.pairwise_cons.2 ⟨fun entry hentry => ?_, h⟩
      rcases List.mem_cons.1 hentry with rfl | hentry
      · exact hlt
      · exact String.lt_trans hlt (hfirst entry hentry)
    · rename_i hnot
      split
      · rename_i hgt
        refine List.pairwise_cons.2 ⟨fun entry hentry => ?_, ih hrest⟩
        rcases mem_place hentry with rfl | hentry
        · exact hgt
        · exact hfirst entry hentry
      · rename_i hnot'
        have heq : key = first.1 :=
          String.le_antisymm (String.not_lt.1 hnot') (String.not_lt.1 hnot)
        exact List.pairwise_cons.2 ⟨by simpa [heq] using hfirst, hrest⟩

/-- Enters a value under a key, replacing an earlier value. -/
def insert (d : Dictionary α) (key : String) (value : α) : Dictionary α :=
  ⟨place key value d.entries, ascending_place key value d.ascending⟩

/-- The value under a key. -/
def get? (d : Dictionary α) (key : String) : Option α :=
  (d.entries.find? fun entry => entry.1 == key).map (·.2)

/-- The keys in increasing order. -/
def keys (d : Dictionary α) : List String :=
  d.entries.map (·.1)

/-- Whether there is no entry. -/
def isEmpty (d : Dictionary α) : Bool :=
  d.entries.isEmpty

/-- Appends a value to the list under a key, which is empty at first. -/
def push (d : Dictionary (List α)) (key : String) (value : α) :
    Dictionary (List α) :=
  d.insert key ((d.get? key).getD [] ++ [value])

/-- Enters the given pairs one after the other. -/
def ofList (pairs : List (String × α)) : Dictionary α :=
  pairs.foldl (fun d pair => d.insert pair.1 pair.2) empty

theorem find?_place (key other : String) (value : α)
    (entries : List (String × α)) :
    ((place key value entries).find? fun entry => entry.1 == other) =
      if key = other then some (key, value)
      else entries.find? fun entry => entry.1 == other := by
  induction entries with
  | nil => by_cases h : key = other <;> simp [place, h]
  | cons first rest ih =>
    simp only [place]
    split
    · by_cases h : key = other <;> simp [h]
    · split
      · rename_i hgt
        by_cases h : key = other
        · have hne : first.1 ≠ other := by
            intro heq
            rw [heq, ← h] at hgt
            exact String.lt_irrefl _ hgt
          simpa [h, hne] using ih
        · simp only [List.find?_cons, ih, h, if_false]
      · rename_i hlt hgt
        have heq : key = first.1 :=
          String.le_antisymm (String.not_lt.1 hgt) (String.not_lt.1 hlt)
        by_cases h : key = other
        · simp [h]
        · simp [h, ← heq]

@[simp]
theorem get?_empty (key : String) : (empty : Dictionary α).get? key = none :=
  rfl

theorem get?_insert (d : Dictionary α) (key other : String) (value : α) :
    (d.insert key value).get? other =
      if key = other then some value else d.get? other := by
  by_cases h : key = other <;>
    simp [get?, insert, find?_place, h]

end Dictionary

end CityMarkup
