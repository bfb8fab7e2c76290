import CityMarkup.Proofs.Encoding.Encoded
import CityMarkup.Proofs.Namespaces.Usage

/-!
# The attributes of the document element

Giving an attribute a value keeps the names of attributes apart from each
other.  The document element declares each namespace once, in the order of the
namespaces, between the default namespace and the schema locations.
-/

namespace CityMarkup

/-! ## Setting attributes -/

theorem setAttribute_of_notMem {name value : String}
    {attributes : List (String × String)}
    (h : name ∉ attributes.map Prod.fst) :
    setAttribute name value attributes = attributes ++ [(name, value)] := by
  induction attributes with
  | nil => rfl
  | cons first rest ih =>
      rw [List.map_cons, List.mem_cons, not_or] at h
      rw [setAttribute, if_neg (Ne.symm h.1), ih h.2, List.cons_append]

theorem keys_setAttribute (name value : String)
    (attributes : List (String × String)) :
    (setAttribute name value attributes).map Prod.fst =
      if name ∈ attributes.map Prod.fst then attributes.map Prod.fst
      else attributes.map Prod.fst ++ [name] := by
  induction attributes with
  | nil => simp [setAttribute]
  | cons first rest ih =>
      rw [setAttribute]
      by_cases hfirst : first.1 = name
      · simp [hfirst]
      · have hne : name ≠ first.1 := Ne.symm hfirst
        rw [if_neg hfirst, List.map_cons, ih, List.map_cons]
        by_cases hrest : name ∈ rest.map Prod.fst
        · rw [if_pos hrest, if_pos (List.mem_cons_of_mem _ hrest)]
        · have hnot : name ∉ first.1 :: rest.map Prod.fst := by
            rw [List.mem_cons, not_or]
            exact ⟨hne, hrest⟩
          rw [if_neg hrest, if_neg hnot, List.cons_append]

theorem mem_keys_foldl_setAttribute {name : String}
    {added attributes : List (String × String)}
    (h : name ∈ (added.foldl (fun l a => setAttribute a.1 a.2 l)
      attributes).map Prod.fst) :
    name ∈ attributes.map Prod.fst ∨ name ∈ added.map Prod.fst := by
  induction added generalizing attributes with
  | nil => exact Or.inl h
  | cons a rest ih =>
      rw [List.map_cons, List.mem_cons]
      rcases ih h with hname | hname
      · rw [keys_setAttribute] at hname
        split at hname
        · exact Or.inl hname
        · rcases List.mem_append.mp hname with hname | hname
          · exact Or.inl hname
          · exact Or.inr (Or.inl (List.mem_singleton.mp hname))
      · exact Or.inr (Or.inr hname)

/-- Attributes that are set one after the other under different names stand in
the order in which they were set. -/
theorem foldl_setAttribute_of_nodup {added attributes :
    List (String × String)}
    (h : ((attributes ++ added).map Prod.fst).Nodup) :
    added.foldl (fun l a => setAttribute a.1 a.2 l) attributes =
      attributes ++ added := by
  induction added generalizing attributes with
  | nil => simp
  | cons a rest ih =>
      have hnot : a.1 ∉ attributes.map Prod.fst := by
        intro hmem
        rw [List.map_append, List.map_cons] at h
        exact (List.nodup_append.mp h).2.2 a.1 hmem a.1
          List.mem_cons_self rfl
      have happend : attributes ++ [(a.1, a.2)] ++ rest =
          attributes ++ a :: rest := by simp
      rw [List.foldl_cons, setAttribute_of_notMem hnot,
        ih (by rw [happend]; exact h), happend]

theorem lookup_of_mem_of_nodup {name value : String}
    {attributes : List (String × String)}
    (h : (attributes.map Prod.fst).Nodup)
    (hmem : (name, value) ∈ attributes) :
    attributes.lookup name = some value := by
  induction attributes with
  | nil => cases hmem
  | cons first rest ih =>
      rw [List.map_cons, List.nodup_cons] at h
      rcases List.mem_cons.mp hmem with rfl | hrest
      · rw [List.lookup_cons_self]
      · have hne : (name == first.1) = false := by
          rw [beq_eq_false_iff_ne]
          rintro rfl
          exact h.1 (List.mem_map.mpr ⟨_, hrest, rfl⟩)
        rw [List.lookup_cons, hne]
        exact ih h.2 hrest

/-! ## Declarations -/

/-- The attribute that binds the prefix of a namespace, if it has one. -/
def Namespace.declaration? (ns : Namespace) : Option (String × String) :=
  ns.abbreviation.map fun short => ("xmlns:" ++ short, ns.uri)

theorem Namespace.declaration?_eq_some {ns : Namespace} {a : String × String} :
    ns.declaration? = some a ↔
      ∃ short, ns.abbreviation = some short ∧
        a = ("xmlns:" ++ short, ns.uri) := by
  rw [declaration?, Option.map_eq_some_iff]
  simp only [eq_comm (b := a)]

/-- Different namespaces are declared under different names. -/
theorem Namespace.eq_of_declaration {ns other : Namespace}
    {a b : String × String} (ha : ns.declaration? = some a)
    (hb : other.declaration? = some b) (h : a.1 = b.1) : ns = other := by
  obtain ⟨short, hshort, rfl⟩ := declaration?_eq_some.mp ha
  obtain ⟨short', hshort', rfl⟩ := declaration?_eq_some.mp hb
  have hsame : short = short' := (String.append_right_inj _).mp h
  exact abbreviation_injective hshort (hsame ▸ hshort')

/-- The names of attributes of the document element that are not bindings of a prefix. -/
def fixedNames : List String :=
  ["xmlns", "xsi:schemaLocation", "srsName"]

theorem Namespace.declaration_name {ns : Namespace} {a : String × String}
    (h : ns.declaration? = some a) : a.1 ∉ fixedNames := by
  have key : ∀ ns ∈ all, ∀ a ∈ ns.declaration?, a.1 ∉ fixedNames := by
    decide +kernel
  exact key ns (mem_all ns) a h

theorem NamespaceSet.nodup_members (s : NamespaceSet) : s.members.Nodup :=
  s.ordered.nodup Namespace.nodup_all

/-- The attributes that declare namespaces and name schemas, in order. -/
def Settings.declarations (s : Settings) : List (String × String) :=
  s.defaultNamespace.toList.map (fun uri => ("xmlns", uri)) ++
    s.namespaces.members.filterMap Namespace.declaration? ++
    s.schemaLocation.toList.map fun location =>
      ("xsi:schemaLocation", location)

theorem nodup_filterMap_declaration {members : List Namespace}
    (h : members.Nodup) :
    ((members.filterMap Namespace.declaration?).map Prod.fst).Nodup := by
  rw [List.map_filterMap]
  apply List.Pairwise.filterMap _ _ h
  intro ns other hne name hname name' hname'
  obtain ⟨a, ha, rfl⟩ := Option.map_eq_some_iff.mp hname
  obtain ⟨b, hb, rfl⟩ := Option.map_eq_some_iff.mp hname'
  intro hsame
  exact hne (Namespace.eq_of_declaration ha hb hsame)

theorem foldl_declare_eq (members : List Namespace)
    (attributes : List (String × String)) :
    members.foldl
      (fun attributes ns => ns.abbreviation.elim attributes fun short =>
        setAttribute ("xmlns:" ++ short) ns.uri attributes) attributes =
      (members.filterMap Namespace.declaration?).foldl
        (fun l a => setAttribute a.1 a.2 l) attributes := by
  induction members generalizing attributes with
  | nil => rfl
  | cons ns rest ih =>
      rw [List.foldl_cons, ih]
      cases hshort : ns.abbreviation with
      | none =>
          have hnone : ns.declaration? = none := by
            rw [Namespace.declaration?, hshort]
            rfl
          rw [List.filterMap_cons_none hnone]
          rfl
      | some short =>
          have hsome : ns.declaration? =
              some ("xmlns:" ++ short, ns.uri) := by
            rw [Namespace.declaration?, hshort]
            rfl
          rw [List.filterMap_cons_some hsome]
          rfl

theorem Settings.declarationAttributes_eq_foldl (s : Settings) :
    s.declarationAttributes =
      s.declarations.foldl (fun l a => setAttribute a.1 a.2 l) [] := by
  rw [declarationAttributes, foldl_declare_eq, declarations,
    List.foldl_append, List.foldl_append]
  cases s.defaultNamespace <;> cases s.schemaLocation <;> rfl

namespace CityModel

theorem nodup_around {names : List String} (h : names.Nodup)
    (hother : ∀ name ∈ names, name ∉ fixedNames) :
    (["xmlns"] ++ names ++ ["xsi:schemaLocation"] ++ ["srsName"]).Nodup := by
  have hperm : (["xmlns"] ++ names ++ ["xsi:schemaLocation"] ++
      ["srsName"]).Perm (names ++ fixedNames) := by
    have hmoved : (["xmlns"] ++ names).Perm (names ++ ["xmlns"]) :=
      List.perm_append_comm
    have happend := (hmoved.append_right ["xsi:schemaLocation"]).append_right
      ["srsName"]
    simpa [fixedNames] using happend
  rw [hperm.nodup_iff, List.nodup_append]
  refine ⟨h, by decide, ?_⟩
  rintro name hname other hfixed rfl
  exact hother name hname hfixed

/-- No attribute of the document element has the name of another. -/
theorem nodup_declarations (s : Settings) (m : CityModel) :
    ((s.declarations ++ m.rootAttributes).map Prod.fst).Nodup := by
  let middle := s.namespaces.members.filterMap Namespace.declaration?
  have hmiddle : (middle.map Prod.fst).Nodup :=
    nodup_filterMap_declaration s.namespaces.nodup_members
  have hother : ∀ name ∈ middle.map Prod.fst, name ∉ fixedNames := by
    intro name hname
    obtain ⟨a, ha, rfl⟩ := List.mem_map.mp hname
    obtain ⟨ns, -, hns⟩ := List.mem_filterMap.mp ha
    exact Namespace.declaration_name hns
  have hdefault : ((s.defaultNamespace.toList.map fun uri =>
      ("xmlns", uri)).map Prod.fst).Sublist ["xmlns"] := by
    cases s.defaultNamespace <;> simp
  have hschema : ((s.schemaLocation.toList.map fun location =>
      ("xsi:schemaLocation", location)).map Prod.fst).Sublist
        ["xsi:schemaLocation"] := by
    cases s.schemaLocation <;> simp
  have hroot : (m.rootAttributes.map Prod.fst).Sublist ["srsName"] := by
    rw [rootAttributes]
    split <;> simp
  have hsublist := ((hdefault.append (.refl (middle.map Prod.fst))).append
    hschema).append hroot
  rw [Settings.declarations, List.map_append, List.map_append,
    List.map_append]
  exact hsublist.nodup (nodup_around hmiddle hother)

/-- The attributes of the document element: the declarations, and then those
of the model. -/
theorem attributes_documentElement (s : Settings) (o : Options)
    (m : CityModel) :
    (m.documentElement s o).attributes =
      s.declarations ++ m.rootAttributes := by
  have hnodup := nodup_declarations s m
  have hfold : (s.declarations ++ m.rootAttributes).foldl
      (fun l a => setAttribute a.1 a.2 l) [] =
      [] ++ (s.declarations ++ m.rootAttributes) :=
    foldl_setAttribute_of_nodup hnodup
  rw [documentElement, Settings.declarationAttributes_eq_foldl,
    ← List.foldl_append, hfold, List.nil_append]

theorem mem_attributes_documentElement {s : Settings} {o : Options}
    {m : CityModel} {a : String × String}
    (ha : a ∈ (m.documentElement s o).attributes) :
    a.1 ∈ fixedNames ∨ ∃ ns : Namespace, ns.declaration? = some a := by
  rw [attributes_documentElement, Settings.declarations] at ha
  simp only [List.mem_append, List.mem_map, List.mem_filterMap] at ha
  rcases ha with ((⟨uri, -, rfl⟩ | ⟨ns, -, hns⟩) | ⟨location, -, rfl⟩) | ha
  · exact Or.inl (by simp [fixedNames])
  · exact Or.inr ⟨ns, hns⟩
  · exact Or.inl (by simp [fixedNames])
  · left
    rw [rootAttributes] at ha
    split at ha
    · cases ha
    · rw [List.mem_singleton.mp ha]
      simp [fixedNames]

/-- A declared namespace is bound to its identifier. -/
theorem lookup_declaration (s : Settings) (o : Options) (m : CityModel)
    {ns : Namespace} {short : String}
    (hdeclared : s.namespaces.contains ns = true)
    (hshort : ns.abbreviation = some short) :
    (m.documentElement s o).attributes.lookup ("xmlns:" ++ short) =
      some ns.uri := by
  have hmem : ns ∈ s.namespaces.members :=
    List.contains_iff_mem.mp hdeclared
  have hdeclaration : ns.declaration? = some ("xmlns:" ++ short, ns.uri) :=
    Namespace.declaration?_eq_some.mpr ⟨short, hshort, rfl⟩
  rw [attributes_documentElement]
  apply lookup_of_mem_of_nodup (nodup_declarations s m)
  apply List.mem_append_left
  apply List.mem_append_left
  apply List.mem_append_right
  exact List.mem_filterMap.mpr ⟨ns, hmem, hdeclaration⟩

theorem lookup_default (s : Settings) (o : Options) (m : CityModel)
    {uri : String} (h : s.defaultNamespace = some uri) :
    (m.documentElement s o).attributes.lookup "xmlns" = some uri := by
  rw [attributes_documentElement]
  apply lookup_of_mem_of_nodup (nodup_declarations s m)
  apply List.mem_append_left
  apply List.mem_append_left
  apply List.mem_append_left
  rw [h]
  exact List.mem_singleton_self _

end CityModel

end CityMarkup
