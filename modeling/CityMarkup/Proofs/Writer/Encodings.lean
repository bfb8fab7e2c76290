import CityMarkup.Proofs.Writer.Sessions

/-!
# Names of the encoding

A writer knows one encoding.  Its name may be spelled in letters of either case
and with hyphens in any places, and is put into the declaration of the document
as it is spelled.  With any other name nothing is encoded, and whatever the
writer has held before and is told afterwards, it hands nothing out.
-/

namespace CityMarkup

/-! ## Spellings -/

/-- Whether two texts are the same up to the case of their letters. -/
def SameUpToCase (text other : String) : Prop :=
  text.toList.map Char.toLower = other.toList.map Char.toLower

instance (text other : String) : Decidable (SameUpToCase text other) :=
  inferInstanceAs (Decidable (_ = _))

/-- Whether a text is a word in letters of either case, with hyphens before,
between and behind them. -/
inductive IsHyphenated : List Char → List Char → Prop where
  | nil : IsHyphenated [] []
  | hyphen {word text : List Char} (h : IsHyphenated word text) :
      IsHyphenated word ('-' :: text)
  | letter {word text : List Char} (c : Char) (h : IsHyphenated word text) :
      IsHyphenated (c.toLower :: word) (c :: text)

theorem toLower_eq_hyphen_iff {c : Char} : c.toLower = '-' ↔ c = '-' := by
  by_cases hupper : c.val ≥ 'A'.val ∧ c.val ≤ 'Z'.val
  · -- A capital is no hyphen, and neither is the letter that it becomes.
    have hlower : c.toLower.val = c.val + 32 :=
      congrArg Char.val (dif_pos hupper)
    have hlow : 65 ≤ c.val.toNat := hupper.1
    have hhigh : c.val.toNat ≤ 90 := hupper.2
    refine iff_of_false (fun h => ?_) (fun h => ?_)
    · rw [h] at hlower
      have hsum : 45 = (c.val.toNat + 32) % 2 ^ 32 :=
        congrArg UInt32.toNat hlower
      omega
    · subst h
      exact absurd hlow (by decide)
  · have hsame : c.toLower = c := dif_neg hupper
    rw [hsame]

/-- A text is a spelling of a word exactly if the word is left of it in lower
case and without its hyphens. -/
theorem isHyphenated_iff {word text : List Char} (h : '-' ∉ word) :
    IsHyphenated word text ↔
      (text.map Char.toLower).filter (fun c => c != '-') = word := by
  constructor
  · intro hspelled
    induction hspelled with
    | nil => rfl
    | hyphen _ ih => exact ih h
    | @letter word text c _ ih =>
        rw [List.mem_cons, not_or] at h
        obtain ⟨hfirst, hrest⟩ := h
        have hkeep : (c.toLower != '-') = true :=
          bne_iff_ne.mpr (Ne.symm hfirst)
        rw [List.map_cons, List.filter_cons, if_pos hkeep, ih hrest]
  · intro hkey
    induction text generalizing word with
    | nil =>
        obtain rfl : [] = word := hkey
        exact .nil
    | cons c text ih =>
        by_cases hc : c = '-'
        · subst hc
          exact .hyphen (ih h hkey)
        · have hkeep : (c.toLower != '-') = true :=
            bne_iff_ne.mpr (mt toLower_eq_hyphen_iff.mp hc)
          rw [List.map_cons, List.filter_cons, if_pos hkeep] at hkey
          subst hkey
          exact .letter c (ih (List.not_mem_of_not_mem_cons h) rfl)

namespace Options

theorem validate_eq_ok_iff (o : Options) :
    o.validate = .ok () ↔ IsHyphenated "utf8".toList o.encoding.toList := by
  have hplain : '-' ∉ "utf8".toList := by decide
  rw [isHyphenated_iff hplain, validate, encodingKey]
  constructor
  · intro h
    split at h
    · assumption
    · cases h
  · intro h
    rw [if_pos h]

theorem validate_eq_error {o : Options}
    (h : ¬IsHyphenated "utf8".toList o.encoding.toList) :
    o.validate = .error (.unsupported (.encoding o.encoding)) := by
  rw [isHyphenated_iff (by decide)] at h
  rw [validate, encodingKey, if_neg h]

/-- The name with one hyphen and the name with none are spellings. -/
theorem isHyphenated_of_sameUpToCase {name : String}
    (h : SameUpToCase name "utf-8" ∨ SameUpToCase name "utf8") :
    IsHyphenated "utf8".toList name.toList := by
  rw [isHyphenated_iff (by decide)]
  rcases h with h | h
  · rw [h]
    decide
  · rw [h]
    decide

end Options

open Markup

namespace Writer

variable {w : Writer}

/-! ## Encoding under any name -/

/-- A writer that accepts no model and holds no document stays so. -/
theorem exists_run_eq
    (hname : ¬IsHyphenated "utf8".toList w.options.encoding.toList)
    (hencoded : w.isEncoded = false) (c : Command) :
    ∃ stored, c.run w = ⟨w.options, w.builder, false, stored⟩ := by
  cases hc : c.encodes with
  | false =>
      refine ⟨some (.state .nothingEncoded), ?_⟩
      rw [Command.run, (refuses_of_not_isEncoded hencoded).outcome hc,
        hencoded]
  | true =>
      cases c with
      | encode m =>
          have hrun := run_encode_error (Options.validate_eq_error hname) m
          exact ⟨_, congrArg Outcome.state hrun⟩
      | render | renderText | save destination deliver place => cases hc

theorem refusesAll_afterCommands
    (hname : ¬IsHyphenated "utf8".toList w.options.encoding.toList)
    (hencoded : w.isEncoded = false) (commands : List Command) :
    (w.afterCommands commands).RefusesAll (.state .nothingEncoded) := by
  induction commands generalizing w with
  | nil => exact (refuses_of_not_isEncoded hencoded).refusesAll
  | cons c rest ih =>
      obtain ⟨stored, hrun⟩ := exists_run_eq hname hencoded c
      rw [afterCommands, List.foldl_cons, hrun]
      exact ih (w := ⟨w.options, w.builder, false, stored⟩) hname rfl

theorem ofList_surrounded (before name behind : String) (rest : List Char) :
    String.ofList (before.toList ++ name.toList ++ behind.toList ++ rest) =
      before ++ name ++ behind ++ String.ofList rest := by
  rw [String.ofList_append, String.ofList_append, String.ofList_append,
    String.ofList_toList, String.ofList_toList, String.ofList_toList]

/-- The name of the encoding begins the document, as it is spelled. -/
theorem exists_render_eq {m : CityModel}
    (h : ((encode m).run w).result = .ok ()) :
    ∃ rest, (render.run ((encode m).run w).state).result =
      .ok ("<?xml version=\"1.0\" encoding=\"" ++ w.options.encoding ++
        "\"?>" ++ rest) := by
  obtain ⟨body, hbody⟩ : ∃ body, m.document w.options =
      renderDeclaration w.options.encoding ++ body := by
    rw [m.document_eq, renderDocument, List.append_assoc]
    exact ⟨_, rfl⟩
  refine ⟨String.ofList body, ?_⟩
  rw [run_render h, hbody]
  exact congrArg Except.ok (ofList_surrounded _ _ _ body)

/-- A model is encoded exactly if the name of the encoding is a spelling of
`utf8` with hyphens in any places; the names `utf-8` and `utf8` in letters of
either case are such spellings.  The document then begins with a declaration
that gives the name as it is spelled.  Any other name is rejected with a failure
that names it; whatever the writer held before, and whatever it is told from
then on, it hands nothing out. -/
theorem encode_acceptsSpellings (w : Writer) (m : CityModel) :
    let name := w.options.encoding
    let done := (encode m).run w
    (done.result = .ok () ↔ IsHyphenated "utf8".toList name.toList) ∧
    (SameUpToCase name "utf-8" ∨ SameUpToCase name "utf8" →
      done.result = .ok ()) ∧
    (done.result = .ok () → ∃ rest, (render.run done.state).result =
      .ok ("<?xml version=\"1.0\" encoding=\"" ++ name ++ "\"?>" ++ rest)) ∧
    (¬IsHyphenated "utf8".toList name.toList →
      let failure := Failure.unsupported (.encoding name)
      done.result = .error failure ∧
      failure.message = "[E4001] Unsupported feature: " ++
        ("output encoding '" ++ name ++ "' (only UTF-8 is supported)") ∧
      ∀ later : List Command,
        (done.state.afterCommands later).RefusesAll
          (.state .nothingEncoded)) := by
  intro name done
  have hok : done.result = .ok () ↔ IsHyphenated "utf8".toList name.toList :=
    by
      rw [result_encode]
      exact w.options.validate_eq_ok_iff
  refine ⟨hok, fun hsame => ?_, exists_render_eq, fun hname => ?_⟩
  · exact hok.mpr (Options.isHyphenated_of_sameUpToCase hsame)
  · have hrun := run_encode_error (Options.validate_eq_error hname) m
    refine ⟨congrArg Outcome.result hrun, rfl, fun later => ?_⟩
    apply refusesAll_afterCommands
    · rw [congrArg Outcome.state hrun]
      exact hname
    · rw [congrArg Outcome.state hrun]

/-- A name with hyphens between all letters is accepted, though it is neither
`utf-8` nor `utf8`. -/
theorem encode_strayHyphens :
    let o : Options := { Options.standard with encoding := "U-T-F-8" }
    ((encode .park).run (.new o)).result = .ok () ∧
    ¬SameUpToCase o.encoding "utf-8" ∧ ¬SameUpToCase o.encoding "utf8" := by
  intro o
  have hname : IsHyphenated "utf8".toList o.encoding.toList := by
    rw [isHyphenated_iff (by decide)]
    decide
  refine ⟨?_, by decide, by decide⟩
  rw [result_encode]
  exact o.validate_eq_ok_iff.mpr hname

end Writer

end CityMarkup
