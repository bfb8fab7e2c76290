import CityMarkup.Appearance.Themed

/-!
# First occurrences and repetitions

An item of a list is a repetition if an item before it has the same key.
Marking goes through the list once and remembers the keys; it marks exactly the
items that are no repetitions and whose keys were not known at the start.
-/

namespace CityMarkup

variable {α : Type}

/-- The items whose key no item before them has, in order. -/
def firsts (key : α → String) (items : List α) : List α :=
  (items.zipIdx.filter fun item =>
    (items.take item.2).all fun earlier => key earlier != key item.1).map
      Prod.fst

/-- The items whose key some item before them has, in order. -/
def repetitions (key : α → String) (items : List α) : List α :=
  (items.zipIdx.filter fun item =>
    (items.take item.2).any fun earlier => key earlier == key item.1).map
      Prod.fst

example : firsts id ["b", "a", "b", "c", "a"] = ["b", "a", "c"] := by decide

theorem mem_of_mem_firsts {key : α → String} {items : List α} {item : α}
    (h : item ∈ firsts key items) : item ∈ items := by
  obtain ⟨indexed, hindexed, rfl⟩ := List.mem_map.mp h
  exact List.fst_mem_of_mem_zipIdx (List.mem_filter.mp hindexed).1

namespace ThemedAppearances

/-- What marking knows when it comes to an item: the keys known at the start
and those of the items before. -/
theorem markFirst_eq_map (key : α → String) (known : List String)
    (items before : List α) {current : List String}
    (hcurrent : ∀ k, k ∈ current ↔ k ∈ known ∨ k ∈ before.map key) :
    markFirst key current items =
      (items.zipIdx before.length).map fun item =>
        (!known.contains (key item.1) &&
          ((before ++ items).take item.2).all fun earlier =>
            key earlier != key item.1, item.1) := by
  induction items generalizing before current with
  | nil => rfl
  | cons item rest ih =>
      have htake : (before ++ item :: rest).take before.length = before :=
        List.take_left
      have hmark : (!known.contains (key item) &&
          before.all fun earlier => key earlier != key item) =
          !current.contains (key item) := by
        rw [Bool.eq_iff_iff]
        simp [hcurrent]
      have hnext : ∀ {next : List String},
          (∀ k, k ∈ next ↔ k = key item ∨ k ∈ current) →
          markFirst key next rest =
            (rest.zipIdx (before.length + 1)).map fun other =>
              (!known.contains (key other.1) &&
                ((before ++ item :: rest).take other.2).all fun earlier =>
                  key earlier != key other.1, other.1) := by
        intro next hnext
        have hbefore : ∀ k, k ∈ next ↔
            k ∈ known ∨ k ∈ (before ++ [item]).map key := by
          intro k
          rw [hnext, hcurrent, List.map_append, List.mem_append,
            List.map_singleton, List.mem_singleton, or_comm, or_assoc]
        have h := ih (before ++ [item]) hbefore
        rw [List.length_append, List.length_singleton, List.append_assoc,
          List.singleton_append] at h
        exact h
      rw [List.zipIdx_cons, List.map_cons, htake, hmark, markFirst]
      by_cases hknown : current.contains (key item) = true
      · have hmem : key item ∈ current := by simpa using hknown
        rw [if_pos hknown, hknown, hnext]
        · rfl
        · intro k
          constructor
          · intro hk
            exact Or.inr hk
          · rintro (rfl | hk)
            · exact hmem
            · exact hk
      · rw [if_neg hknown, Bool.eq_false_iff.mpr hknown,
          hnext fun k => List.mem_cons]
        rfl

/-- Marking writes what comes up first, unless its key was known. -/
theorem written_markFirst (key : α → String) (known : List String)
    (items : List α) :
    written (markFirst key known items) =
      (firsts key items).filter fun item => !known.contains (key item) := by
  rw [markFirst_eq_map key known items [] (by simp), written, firsts,
    List.filter_map, List.map_map, List.filter_map, List.filter_filter]
  rfl

theorem written_markFirst_nil (key : α → String) (items : List α) :
    written (markFirst key [] items) = firsts key items := by
  rw [written_markFirst]
  exact List.filter_eq_self.mpr fun item _ => rfl

/-- Marking leaves out what comes up again. -/
theorem repeated_markFirst_nil (key : α → String) (items : List α) :
    repeated (markFirst key [] items) = repetitions key items := by
  have hmark : ∀ item : α × Nat,
      (!(!([] : List String).contains (key item.1) &&
        (items.take item.2).all fun earlier => key earlier != key item.1)) =
      (items.take item.2).any fun earlier => key earlier == key item.1 := by
    intro item
    rw [List.contains_nil, Bool.not_false, Bool.true_and,
      List.not_all_eq_any_not]
    simp only [bne, Bool.not_not]
  rw [markFirst_eq_map key [] items [] (by simp), repeated, repetitions,
    List.filter_map, List.map_map]
  simp only [Function.comp_def, List.nil_append, hmark]
  rfl

end ThemedAppearances

end CityMarkup
