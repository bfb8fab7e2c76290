import CityMarkup.Proofs.Document.Stickiness
import CityMarkup.Proofs.Encoding.Encoded
import Mathlib.Data.List.Basic

/-!
# Notices of a writer

While a model is encoded, notices are given about details only.  As lines of
text the notices of failures to write and the information about saved documents
are told from all others by how they begin.
-/

namespace CityMarkup

/-! ## Details -/

/-- Whether notices are about details only. -/
def AreDetails (notices : List Notice) : Prop :=
  ∀ n ∈ notices, n.level = .debug ∨ n.level = .trace

theorem AreDetails.append {first second : List Notice}
    (h : AreDetails first) (h' : AreDetails second) :
    AreDetails (first ++ second) :=
  List.forall_mem_append.mpr ⟨h, h'⟩

theorem areDetails_flatMap {α : Type} {f : α → List Notice} {l : List α}
    (h : ∀ a ∈ l, AreDetails (f a)) : AreDetails (l.flatMap f) := by
  intro n hn
  obtain ⟨a, ha, hna⟩ := List.mem_flatMap.mp hn
  exact h a ha n hna

theorem areDetails_map {α : Type} {f : α → Notice} (l : List α)
    (h : ∀ a, (f a).level = .debug ∨ (f a).level = .trace) :
    AreDetails (l.map f) :=
  List.forall_mem_map.mpr fun a _ => h a

theorem ThemedAppearances.areDetails_notices (t : ThemedAppearances) :
    AreDetails t.notices :=
  areDetails_flatMap fun _ _ =>
    (areDetails_map _ fun _ => Or.inr rfl).append
      (areDetails_map _ fun _ => Or.inr rfl)

theorem Geometry.areDetails_placementNotices (o : Options)
    (type : FeatureType) (objectId : String) (g : Geometry) :
    AreDetails (g.placementNotices o type objectId) := by
  rw [placementNotices]
  cases g.placement o type with
  | held name => exact List.forall_mem_nil _
  | empty => exact List.forall_mem_singleton.mpr (Or.inl rfl)
  | noContainer => exact List.forall_mem_singleton.mpr (Or.inl rfl)

namespace CityObject

mutual

theorem areDetails_notices (o : Options) :
    ∀ (isRoot : Bool) (object : CityObject),
      AreDetails (object.notices o isRoot)
  | isRoot, ⟨id, type, attributes, geometries, children, address, reference,
      coverage⟩ => by
    rw [notices]
    refine (AreDetails.append ?_ ?_).append (areDetails_childNotices o children)
    · exact ThemedAppearances.areDetails_notices _
    · exact areDetails_flatMap fun g _ =>
        g.areDetails_placementNotices o type id

theorem areDetails_childNotices (o : Options) :
    ∀ children : List CityObject, AreDetails (childNotices o children)
  | [] => by
    rw [childNotices]
    exact List.forall_mem_nil _
  | child :: rest => by
    rw [childNotices]
    exact (areDetails_notices o false child).append
      (areDetails_childNotices o rest)

end

end CityObject

/-- Encoding a model gives notices about details only. -/
theorem CityModel.areDetails_notices (o : Options) (m : CityModel) :
    AreDetails (m.namespaceNotice :: m.notices o) := by
  refine List.forall_mem_cons.mpr ⟨Or.inl rfl, ?_⟩
  rw [notices]
  refine (AreDetails.append ?_ ?_).append
    (List.forall_mem_singleton.mpr (Or.inl rfl))
  · split
    · exact List.forall_mem_nil _
    · exact List.forall_mem_singleton.mpr (Or.inl rfl)
  · exact areDetails_flatMap fun object _ => object.areDetails_notices o true

/-! ## Lines -/

/-- Whether a line tells that writing has failed. -/
def reportsFailure (line : String) : Bool :=
  "ERROR CityGML writing failed: ".toList.isPrefixOf line.toList

/-- Whether a line is information. -/
def isInformation (line : String) : Bool :=
  "INFO ".toList.isPrefixOf line.toList

theorem isPrefixOf_append_eq_false {n : Nat} {start first : String}
    (h : start.toList.take n ≠ first.toList.take n)
    (hstart : n ≤ start.toList.length) (hfirst : n ≤ first.toList.length)
    (rest : String) :
    start.toList.isPrefixOf (first ++ rest).toList = false := by
  rw [Bool.eq_false_iff]
  intro hprefix
  rw [List.isPrefixOf_iff_prefix] at hprefix
  obtain ⟨tail, htail⟩ := hprefix
  apply h
  have htake := congrArg (List.take n) htail
  rwa [String.toList_append, List.take_append_of_le_length hstart,
    List.take_append_of_le_length hfirst] at htake

theorem isPrefixOf_append_self (start rest : String) :
    start.toList.isPrefixOf (start ++ rest).toList = true := by
  rw [List.isPrefixOf_iff_prefix, String.toList_append]
  exact List.prefix_append _ _

/-- The wording of every failure begins with its code. -/
theorem Failure.exists_message (failure : Failure) :
    ∃ rest, failure.message = "[E" ++ rest := by
  cases failure with
  | io fault => exact ⟨"1001] I/O error: " ++ fault.message, rfl⟩
  | markup fault => exact ⟨"2001] XML error: " ++ fault.message, rfl⟩
  | document fault =>
      exact ⟨"2003] Invalid XML structure: " ++ fault.message, rfl⟩
  | writing text => exact ⟨"2005] XML writing error: " ++ text, rfl⟩
  | state fault => exact ⟨"2006] Document state error: " ++ fault.message, rfl⟩
  | unsupported fault =>
      exact ⟨"4001] Unsupported feature: " ++ fault.message, rfl⟩

namespace Notice

/-- The first letter of a line is that of its level. -/
theorem isPrefixOf_line_eq_false {start : String} {n : Notice}
    (hstart : 1 ≤ start.toList.length)
    (h : start.toList.take 1 ≠ n.level.text.toList.take 1) :
    start.toList.isPrefixOf n.line.toList = false := by
  have hlevel : 1 ≤ n.level.text.toList.length := by
    cases n.level <;> decide
  rw [line, String.append_assoc]
  exact isPrefixOf_append_eq_false h hstart hlevel _

theorem reportsFailure_line_of_level {n : Notice} (h : n.level ≠ .error) :
    reportsFailure n.line = false := by
  apply isPrefixOf_line_eq_false (by decide)
  revert h
  cases n.level <;> decide

theorem reportsFailure_line_failed (failure : Failure) :
    reportsFailure (failed failure).line = false := by
  obtain ⟨rest, hmessage⟩ := failure.exists_message
  have hfirst : Level.error.text ++ " " ++ "[E" = "ERROR [E" := by decide
  have hline : (failed failure).line =
      Level.error.text ++ " " ++ failure.message := rfl
  rw [reportsFailure, hline, hmessage, ← String.append_assoc, hfirst]
  exact isPrefixOf_append_eq_false (n := 7) (by decide) (by decide)
    (by decide) rest

theorem line_writingFailed (failure : Failure) :
    (writingFailed failure).line =
      "ERROR CityGML writing failed: " ++ failure.message := by
  have hfirst : Level.error.text ++ " " ++ "CityGML writing failed: " =
      "ERROR CityGML writing failed: " := by
    decide
  have hline : (writingFailed failure).line = Level.error.text ++ " " ++
      ("CityGML writing failed: " ++ failure.message) := rfl
  rw [hline, ← String.append_assoc, hfirst]

theorem reportsFailure_line_writingFailed (failure : Failure) :
    reportsFailure (writingFailed failure).line = true := by
  rw [line_writingFailed]
  exact isPrefixOf_append_self _ _

theorem isInformation_line_iff {n : Notice} :
    isInformation n.line = true ↔ n.level = .info := by
  by_cases hlevel : n.level = .info
  · refine iff_of_true ?_ hlevel
    rw [isInformation, line, hlevel]
    exact isPrefixOf_append_self _ _
  · refine iff_of_false ?_ hlevel
    rw [isInformation, isPrefixOf_line_eq_false (by decide)]
    · exact Bool.false_ne_true
    · revert hlevel
      cases n.level <;> decide

end Notice

/-- The lines that tell that writing has failed, among the lines of some
notices. -/
def failureLines (notices : List Notice) : List String :=
  (notices.map Notice.line).filter reportsFailure

/-- The lines with information among the lines of some notices. -/
def informationLines (notices : List Notice) : List String :=
  (notices.map Notice.line).filter isInformation

theorem failureLines_append (first second : List Notice) :
    failureLines (first ++ second) =
      failureLines first ++ failureLines second := by
  rw [failureLines, List.map_append, List.filter_append]
  rfl

theorem failureLines_of_level {notices : List Notice}
    (h : ∀ n ∈ notices, n.level ≠ .error) : failureLines notices = [] := by
  rw [failureLines, List.filter_eq_nil_iff, List.forall_mem_map]
  intro n hn
  rw [Notice.reportsFailure_line_of_level (h n hn)]
  exact Bool.false_ne_true

theorem informationLines_of_level {notices : List Notice}
    (h : ∀ n ∈ notices, n.level ≠ .info) : informationLines notices = [] := by
  rw [informationLines, List.filter_eq_nil_iff, List.forall_mem_map]
  intro n hn
  rw [Notice.isInformation_line_iff]
  exact h n hn

theorem AreDetails.failureLines_eq_nil {notices : List Notice}
    (h : AreDetails notices) : failureLines notices = [] :=
  failureLines_of_level fun n hn => by
    rcases h n hn with hlevel | hlevel <;> simp [hlevel]

theorem AreDetails.informationLines_eq_nil {notices : List Notice}
    (h : AreDetails notices) : informationLines notices = [] :=
  informationLines_of_level fun n hn => by
    rcases h n hn with hlevel | hlevel <;> simp [hlevel]

end CityMarkup
