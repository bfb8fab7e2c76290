import CityMarkup.Proofs.Encoding.Content
import CityMarkup.Proofs.Markup.Acceptance
import CityMarkup.Proofs.Namespaces.Coverage
import Mathlib.Tactic.ByContra

/-!
# Written models

The names in the document of a model are plain, whatever strings the model
holds.  The document is therefore well formed in every layout.  Once a model is
encoded it can be written, and whether the text is checked on the way makes no
difference to it.
-/

namespace CityMarkup

open Markup

/-! ## Plain names -/

namespace Request

theorem isDelimiter_of_isAlphanum {c : Char} (h : c.isAlphanum = true) :
    isDelimiter c = false := by
  have hne : ∀ d : Char, d.isAlphanum = false → (c == d) = false := by
    intro d hd
    rw [beq_eq_false_iff_ne]
    rintro rfl
    rw [h] at hd
    cases hd
  have hblank : isBlank c = false := by
    rw [isBlank, hne ' ' rfl, hne '\t' rfl, hne '\r' rfl, hne '\n' rfl]
    rfl
  have hquote : isQuote c = false := by
    rw [isQuote, hne '\'' rfl, hne '"' rfl]
    rfl
  have hother : "<>/=?!&".toList.contains c = false := by
    have key : "<>/=?!&".toList.any Char.isAlphanum = false := rfl
    rw [List.contains_eq_any_beq, List.any_eq_false]
    intro d hd
    have halpha := List.any_eq_false.mp key d hd
    rw [hne d (Bool.eq_false_iff.mpr halpha)]
    exact Bool.false_ne_true
  rw [isDelimiter, hblank, hquote, hother]
  rfl

theorem isName_defaultNames : ∀ name ∈ defaultNames, IsName name := by
  have key : defaultNames.all isNameText = true := by decide +kernel
  exact fun name hname => .of_all key hname

theorem isName_attributeNames : ∀ name ∈ attributeNames, IsName name := by
  have key : attributeNames.all isNameText = true := by decide +kernel
  exact fun name hname => .of_all key hname

end Request

theorem Namespace.isName_abbreviation {ns : Namespace} {short : String}
    (h : ns.abbreviation = some short) : IsName short := by
  have key : (all.filterMap abbreviation).all isNameText = true := by
    decide +kernel
  exact .of_all key (List.mem_filterMap.mpr ⟨ns, mem_all ns, h⟩)

theorem Namespace.isName_declaration {ns : Namespace} {a : String × String}
    (h : ns.declaration? = some a) : IsName a.1 := by
  have key : ((all.filterMap declaration?).map Prod.fst).all isNameText =
      true := by
    decide +kernel
  have ha : a ∈ all.filterMap declaration? :=
    List.mem_filterMap.mpr ⟨ns, mem_all ns, h⟩
  exact .of_all key (List.mem_map_of_mem ha)

/-- A prefix and a plain name make a name. -/
theorem isName_prefixed {ns : Namespace} {short name : String}
    (hshort : ns.abbreviation = some short)
    (hplain : name.toList.all Char.isAlphanum = true) :
    IsName (short ++ ":" ++ name) := by
  have hprefix := Namespace.isName_abbreviation hshort
  constructor
  · simp
  · intro c hc
    simp only [String.toList_append, List.mem_append] at hc
    rcases hc with (hc | hc) | hc
    · exact hprefix.plain c hc
    · obtain rfl : c = ':' := List.mem_singleton.mp hc
      rfl
    · exact Request.isDelimiter_of_isAlphanum (List.all_eq_true.mp hplain c hc)

namespace CityModel

variable (o : Options) (m : CityModel)

theorem isPlainTag_written {r : Request}
    (hr : r ∈ Fragment.allRequests (m.fragments (m.settings o).isDeclared o)) :
    IsPlainTag (r.written (m.settings o)) := by
  have hsound := (allSound_fragments o m).of_mem_requests hr
  constructor
  · change IsName ((m.settings o).qualify r.name r.ns)
    by_cases hne : r.ns = .cityGml
    · have hcovered := hsound.covered
      rw [if_pos hne] at hcovered
      rw [hne, Settings.qualify_cityGml]
      exact Request.isName_defaultNames r.name hcovered
    · obtain ⟨short, hshort, hname, -⟩ := bound_encodedRoot o m hr hne
      rw [hname]
      exact isName_prefixed hshort hsound.plain
  · intro a ha
    obtain ⟨b, hb, hab⟩ := List.mem_map.mp (mem_keys_written ha)
    rw [← hab]
    exact Request.isName_attributeNames _ (hsound.known b hb)

theorem isName_rootAttributes {a : String × String}
    (ha : a ∈ (m.encodedRoot o).attributes) : IsName a.1 := by
  rcases mem_attributes_documentElement ha with hname | ⟨ns, hns⟩
  · have key : fixedNames.all isNameText = true := by decide +kernel
    exact .of_all key hname
  · exact Namespace.isName_declaration hns

/-- No string of a model gets into a name of its document. -/
theorem isPlain_encodedRoot : (m.encodedRoot o).toNode.IsPlain := by
  rw [OpenElement.toNode, Node.isPlain_element]
  constructor
  · refine ⟨?_, fun a ha => isName_rootAttributes o m ha⟩
    have key : isNameText "CityModel" = true := rfl
    exact .of_isNameText key
  · intro tag htag
    rw [elements_encodedRoot] at htag
    obtain ⟨r, hr, rfl⟩ := List.mem_map.mp htag
    exact isPlainTag_written o m hr

/-! ## The text of a model -/

/-- The characters of the document of a model. -/
def document : List Char :=
  Builder.renderRoot (m.settings o) (m.encodedRoot o)

theorem document_eq :
    m.document o = renderDocument (m.settings o).layout o.encoding
      (m.encodedRoot o).toNode := rfl

theorem document_validation (validation : Bool) :
    m.document { o with validation } = m.document o := by
  have hroot := m.encodedRoot_congr (o.sameContent_validation validation)
  rw [document_eq, document_eq, hroot]
  rfl

end CityModel

/-- The name of an accepted encoding has four letters and digits, and hyphens
besides. -/
theorem Options.greater_notMem_encoding {o : Options}
    (h : o.validate = .ok ()) : '>' ∉ o.encoding.toList := by
  have hkey : encodingKey o.encoding = "utf8".toList := by
    by_contra hne
    rw [validate, if_neg hne] at h
    cases h
  intro hmem
  have hlower : '>' ∈ o.encoding.toList.map Char.toLower :=
    List.mem_map.mpr ⟨'>', hmem, rfl⟩
  have hfound : '>' ∈ encodingKey o.encoding :=
    List.mem_filter.mpr ⟨hlower, rfl⟩
  rw [hkey] at hfound
  revert hfound
  decide

namespace CityModel

/-- The document of a model is well formed in every layout. -/
theorem checkWellFormed_document {o : Options} (h : o.validate = .ok ())
    (m : CityModel) :
    checkWellFormed (Utf8.encode (m.document o)) = .ok () :=
  checkWellFormed_renderDocument (m.settings o).layout
    (o.greater_notMem_encoding h) rfl (m.isPlain_encodedRoot o)

end CityModel

/-- A document whose elements are closed, and that is well formed, is handed
out whether it is checked or not. -/
theorem Builder.run_render_closed {settings : Settings} {root : OpenElement}
    (h : checkWellFormed (Utf8.encode (renderRoot settings root)) = .ok ()) :
    Builder.render.run ⟨settings, [root], none⟩ =
      ⟨.ok (String.ofList (renderRoot settings root)),
        ⟨settings, [root], none⟩, []⟩ := by
  rw [Action.run, render, withOpen]
  simp only [List.isEmpty_nil, ↓reduceIte, h, ite_self]

namespace Writer

variable {w : Writer} {m : CityModel}

/-- A writer that has encoded a model hands out the text of the model and
stays as it is. -/
theorem run_render (h : ((encode m).run w).result = .ok ()) :
    render.run ((encode m).run w).state =
      ⟨.ok (String.ofList (m.document w.options)), ((encode m).run w).state,
        []⟩ := by
  have hvalid : w.options.validate = .ok () := by
    rw [← result_encode w m]
    exact h
  have hbuilder : Builder.render.run (m.encodedBuilder w.options) =
      ⟨.ok (String.ofList (m.document w.options)),
        m.encodedBuilder w.options, []⟩ :=
    Builder.run_render_closed (m.checkWellFormed_document hvalid)
  rw [state_encode h, Action.run, render, if_pos rfl, hbuilder]
  rfl

/-- With options that are accepted there is a text to hand out. -/
theorem exists_render (h : w.options.validate = .ok ()) (m : CityModel) :
    ∃ text, (render.run ((encode m).run w).state).result = .ok text := by
  have hencode : ((encode m).run w).result = .ok () := by
    rw [result_encode]
    exact h
  exact ⟨_, congrArg Outcome.result (run_render hencode)⟩

/-- The text that is read back from the bytes is the text that was written. -/
theorem run_renderText (h : ((encode m).run w).result = .ok ()) :
    renderText.run ((encode m).run w).state =
      ⟨.ok (String.ofList (m.document w.options)), ((encode m).run w).state,
        []⟩ := by
  rw [Action.run, renderText, run_render h]
  simp only [String.toList_ofList, Utf8.decode_encode]

/-- No model makes writing fail.  Encoding fails only with the failure of
validating the options.  Otherwise there is one well-formed text, and it is
handed out whether it is checked or not. -/
theorem encode_then_render (w : Writer) (m : CityModel) :
    ((encode m).run w).result = w.options.validate ∧
      (w.options.validate = .ok () →
        ∃ text : String,
          Markup.checkWellFormed (Utf8.encode text.toList) = .ok () ∧
          ∀ validation : Bool,
            let u := { w with options := { w.options with validation } }
            ((encode m).run u).result = .ok () ∧
              (render.run ((encode m).run u).state).result = .ok text ∧
              (renderText.run ((encode m).run u).state).result = .ok text) := by
  refine ⟨result_encode w m, ?_⟩
  intro h
  refine ⟨String.ofList (m.document w.options), ?_, ?_⟩
  · rw [String.toList_ofList]
    exact m.checkWellFormed_document h
  · intro validation u
    have hencode : ((encode m).run u).result = .ok () := by
      rw [result_encode]
      exact h
    have hdocument : m.document u.options = m.document w.options :=
      m.document_validation w.options validation
    refine ⟨hencode, ?_, ?_⟩
    · rw [run_render hencode, hdocument]
    · rw [run_renderText hencode, hdocument]

theorem encode_then_render_park :
    ∃ text : String,
      (renderText.run ((encode .park).run
        (.new { Options.standard with validation := true })).state).result =
        .ok text := by
  obtain ⟨text, -, htext⟩ := (encode_then_render (.new .standard) .park).2
    Options.validate_standard
  exact ⟨text, (htext true).2.2⟩

end Writer

end CityMarkup
