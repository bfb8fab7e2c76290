import CityMarkup.Proofs.Document.Calls

/-!
# The builder replays its calls

On an open document a call either closes more than was opened, and fails, or
it succeeds and leaves the document open.  What the elements on the stack hold
already, and what the calls still to come say, make up the walk through the
finished document, and no call changes the sum of the two.  So a builder that
was begun and given calls renders the document that the calls spell out.
-/

namespace CityMarkup

open Call

/-- What a call does to a builder. -/
def Call.action : Call → Action Builder Unit
  | start name ns => Builder.startElement name ns
  | finish => Builder.endElement
  | set name value => Builder.writeAttribute name value
  | text value => Builder.writeText value
  | textElement name ns value => Builder.writeTextElement name ns value

namespace Builder

/-- The place of the first of some calls that fails, and its failure. -/
def firstFailure? : List Call → Builder → Option (Nat × Failure)
  | [], _ => none
  | call :: rest, b =>
    match call.action.run b with
    | ⟨.error failure, _, _⟩ => some (0, failure)
    | ⟨.ok (), b, _⟩ =>
      (firstFailure? rest b).map fun found => (found.1 + 1, found.2)

/-- The builder after some calls. -/
def afterCalls (calls : List Call) (b : Builder) : Builder :=
  calls.foldl (fun b call => (call.action.run b).state) b

/-! ## What has been met so far -/

/-- What is met on a walk through the open elements down to the innermost one,
whose content is not complete.  The attributes are those that the elements
have in the end, with all that the calls still give to them. -/
def pending (calls : List Call) : Nat → List OpenElement → List Event
  | _, [] => []
  | depth, e :: outer =>
    pending calls (depth + 1) outer ++
      .start e.name ((writes depth calls).foldl
        (fun l a => setAttribute a.1 a.2 l) e.attributes) ::
      Node.allEvents e.children

theorem pending_congr {calls calls' : List Call} {depth depth' : Nat}
    (h : ∀ i, writes (depth + i) calls = writes (depth' + i) calls')
    (stack : List OpenElement) :
    pending calls depth stack = pending calls' depth' stack := by
  induction stack generalizing depth depth' with
  | nil => rfl
  | cons e outer ih =>
      have hinnermost : writes depth calls = writes depth' calls' := h 0
      have hnext : ∀ i, writes (depth + 1 + i) calls =
          writes (depth' + 1 + i) calls' := by
        intro i
        rw [Nat.add_right_comm depth, Nat.add_right_comm depth']
        exact h (i + 1)
      have houter := ih hnext
      rw [pending, pending, houter, hinnermost]

theorem pending_nil (e : OpenElement) :
    pending [] 0 [e] = .start e.name e.attributes ::
      Node.allEvents e.children := rfl

theorem pending_push (calls : List Call) (depth : Nat) (e : OpenElement)
    (outer : List OpenElement) (node : Node) :
    pending calls depth (e.push node :: outer) =
      pending calls depth (e :: outer) ++ node.events := by
  rw [pending, pending, OpenElement.push, Node.allEvents_append,
    Node.allEvents, Node.allEvents, List.append_nil, List.append_assoc,
    List.cons_append]

/-! ## One call -/

/-- What a call does to an open document if it does not close more than was
opened: it keeps the document open, its depth follows the call, and the walk
through the finished document stays the same. -/
theorem exists_run_action (s : Settings) (call : Call) (e : OpenElement)
    (outer : List OpenElement)
    (h : ¬outer.length + call.opens < call.closes) :
    ∃ (e' : OpenElement) (outer' : List OpenElement),
      call.action.run ⟨s, e :: outer, none⟩ =
        ⟨.ok (), ⟨s, e' :: outer', none⟩, []⟩ ∧
      outer'.length = outer.length + call.opens - call.closes ∧
      ∀ rest, pending rest 0 (e' :: outer') ++ Call.events s rest =
        pending (call :: rest) 0 (e :: outer) ++
          Call.events s (call :: rest) := by
  cases call with
  | start name ns =>
      refine ⟨⟨s.qualify name ns, [], []⟩, e :: outer, rfl, rfl, ?_⟩
      intro rest
      have hbelow : pending (.start name ns :: rest) 0 (e :: outer) =
          pending rest 1 (e :: outer) :=
        pending_congr (fun i => by simp [writes, Nat.add_comm]) _
      rw [hbelow, Call.events, settledAttributes_eq_foldl, pending,
        List.append_assoc]
      rfl
  | finish =>
      cases outer with
      | nil => exact absurd Nat.zero_lt_one h
      | cons parent outer =>
          refine ⟨parent.push e.toNode, outer, rfl, rfl, ?_⟩
          intro rest
          have hbelow : pending (.finish :: rest) 1 (parent :: outer) =
              pending rest 0 (parent :: outer) :=
            pending_congr (fun i => by rw [Nat.add_comm 1, writes]; simp) _
          rw [pending_push, pending.eq_2 _ _ e, hbelow, OpenElement.toNode,
            Node.events, Call.events, writes, List.foldl_nil]
          simp
  | set name value =>
      refine ⟨e.setAttribute name value, outer, rfl, rfl, ?_⟩
      intro rest
      have hbelow : pending (.set name value :: rest) 1 outer =
          pending rest 1 outer :=
        pending_congr (fun i => by rw [Nat.add_comm 1, writes]) _
      rw [pending, pending, hbelow, Call.events]
      rfl
  | text value =>
      refine ⟨e.push (.text value), outer, rfl, rfl, ?_⟩
      intro rest
      have hsame : pending (.text value :: rest) 0 (e :: outer) =
          pending rest 0 (e :: outer) :=
        pending_congr (fun i => by simp [writes]) _
      rw [hsame, pending_push, Call.events, Node.events, List.append_assoc,
        List.singleton_append]
  | textElement name ns value =>
      refine ⟨e.push (.element (s.qualify name ns) [] [.text value]), outer,
        rfl, rfl, ?_⟩
      intro rest
      have hsame : pending (.textElement name ns value :: rest) 0
          (e :: outer) = pending rest 0 (e :: outer) :=
        pending_congr (fun i => by simp [writes]) _
      rw [hsame, pending_push, Call.events, Node.events, List.append_assoc]
      rfl

/-- Closing the document element fails. -/
theorem run_action_excess (s : Settings) {call : Call} (e : OpenElement)
    {outer : List OpenElement} (h : outer.length + call.opens < call.closes) :
    (call.action.run ⟨s, e :: outer, none⟩).result =
      .error (.state .nothingToClose) := by
  cases call with
  | finish =>
      cases outer with
      | nil => rfl
      | cons parent outer =>
          simp only [List.length_cons, opens, closes] at h
          omega
  | textElement name ns value =>
      simp only [opens, closes] at h
      omega
  | start name ns => cases h
  | set name value => cases h
  | text value => cases h

/-! ## A sequence of calls -/

/-- Calls fail where they close more than was opened, and nowhere else. -/
theorem firstFailure?_open (s : Settings) (calls : List Call)
    (e : OpenElement) (outer : List OpenElement) :
    firstFailure? calls ⟨s, e :: outer, none⟩ =
      (firstExcess? outer.length calls).map fun i =>
        (i, .state .nothingToClose) := by
  induction calls generalizing e outer with
  | nil => rfl
  | cons call rest ih =>
      rw [firstFailure?, firstExcess?_cons]
      by_cases hexcess : outer.length + call.opens < call.closes
      · have hresult := run_action_excess s e hexcess
        rw [if_pos hexcess]
        rcases hrun : call.action.run ⟨s, e :: outer, none⟩ with
          ⟨result, b, notices⟩
        rw [hrun] at hresult
        cases hresult
        rfl
      · obtain ⟨e', outer', hrun, hlength, -⟩ :=
          exists_run_action s call e outer hexcess
        rw [if_neg hexcess, hrun]
        simp only [ih, hlength, Option.map_map]
        rfl

/-- Calls that do not close more than was opened leave the document open, at
the depth that they ask for, and with what they say. -/
theorem afterCalls_open (s : Settings) (calls : List Call) (e : OpenElement)
    (outer : List OpenElement) (h : firstExcess? outer.length calls = none) :
    ∃ (e' : OpenElement) (outer' : List OpenElement),
      afterCalls calls ⟨s, e :: outer, none⟩ = ⟨s, e' :: outer', none⟩ ∧
      outer'.length + ends calls = outer.length + starts calls ∧
      pending [] 0 (e' :: outer') =
        pending calls 0 (e :: outer) ++ Call.events s calls := by
  induction calls generalizing e outer with
  | nil => exact ⟨e, outer, rfl, rfl, by simp [Call.events]⟩
  | cons call rest ih =>
      rw [firstExcess?_cons] at h
      by_cases hexcess : outer.length + call.opens < call.closes
      · rw [if_pos hexcess] at h
        cases h
      · rw [if_neg hexcess, Option.map_eq_none_iff] at h
        obtain ⟨e₁, outer₁, hrun, hlength, hevents⟩ :=
          exists_run_action s call e outer hexcess
        rw [← hlength] at h
        obtain ⟨e', outer', hafter, hdepth, hmet⟩ := ih e₁ outer₁ h
        refine ⟨e', outer', ?_, ?_, ?_⟩
        · rw [afterCalls, List.foldl_cons, hrun]
          exact hafter
        · rw [starts_cons, ends_cons]
          omega
        · rw [hmet, hevents rest]

/-! ## Rendering what was written -/

theorem run_render_open (s : Settings) (e : OpenElement)
    {outer : List OpenElement} (h : outer.length ≠ 0) :
    (render.run ⟨s, e :: outer, none⟩).result =
      .error (.state (.stillOpen outer.length)) := by
  cases outer with
  | nil => exact absurd rfl h
  | cons parent outer => rfl

theorem run_render_unchecked {s : Settings} (h : s.validates = false)
    (root : OpenElement) :
    (render.run ⟨s, [root], none⟩).result =
      .ok (String.ofList (renderRoot s root)) := by
  rw [Action.run, render, withOpen]
  simp [h]

/-! ## Attributes of the elements met -/

section Attributes

variable {s : Settings} {calls : List Call} {tag : String}
  {attributes : List (String × String)}

theorem nodup_of_mem_events (h : .start tag attributes ∈ Call.events s calls) :
    (attributes.map Prod.fst).Nodup := by
  induction calls with
  | nil => cases h
  | cons call rest ih =>
      cases call with
      | start name ns =>
          rcases List.mem_cons.mp h with h | h
          · cases h
            exact nodup_keys_settledAttributes _
          · exact ih h
      | finish => exact ih (List.mem_of_ne_of_mem (by simp) h)
      | set name value => exact ih h
      | text value => exact ih (List.mem_of_ne_of_mem (by simp) h)
      | textElement name ns value =>
          rcases List.mem_cons.mp h with h | h
          · cases h
            exact List.nodup_nil
          · exact ih (List.mem_of_ne_of_mem (by simp)
              (List.mem_of_ne_of_mem (by simp) h))

theorem nodup_of_mem_documentEvents {name : String} {ns : Namespace}
    (h : .start tag attributes ∈ documentEvents s name ns calls) :
    (attributes.map Prod.fst).Nodup := by
  rw [documentEvents] at h
  rcases List.mem_cons.mp h with h | h
  · cases h
    exact nodup_keys_settledAttributes _
  · rcases List.mem_append.mp h with h | h
    · exact nodup_of_mem_events h
    · cases List.mem_singleton.mp h

end Attributes

/-! ## The whole document -/

/-- After a new document is begun, calls fail exactly where their ends first
outnumber their starts.  If they do not fail, the document can be rendered if
all elements are closed, and then the walk through its document element is
what the calls spell out; otherwise the elements still open are counted, and
the failure names their number. -/
theorem replays_calls (b : Builder) (name : String) (ns : Namespace)
    (calls : List Call) :
    let begun := ((createDocument name ns).run b).state
    firstFailure? calls begun =
        (firstExcess? 0 calls).map (fun i => (i, .state .nothingToClose)) ∧
    (∀ i, firstExcess? 0 calls = some i → calls[i]? = some .finish) ∧
    (firstFailure? calls begun = none →
      ends calls ≤ starts calls ∧
      (starts calls ≠ ends calls →
        let failure := Failure.state (.stillOpen (starts calls - ends calls))
        (render.run (afterCalls calls begun)).result = .error failure ∧
        failure.message = "[E2006] Document state error: " ++
          (toString (starts calls - ends calls) ++
            " element(s) still open at save time")) ∧
      (starts calls = ends calls → b.settings.validates = false →
        ∃ root, (afterCalls calls begun).stack = [root] ∧
          (render.run (afterCalls calls begun)).result =
            .ok (String.ofList (renderRoot b.settings root)) ∧
          root.toNode.events = documentEvents b.settings name ns calls ∧
          ∀ tag attributes, .start tag attributes ∈ root.toNode.events →
            (attributes.map Prod.fst).Nodup)) := by
  intro begun
  let s := b.settings
  let start : OpenElement := ⟨s.qualify name ns, s.declarationAttributes, []⟩
  have hbegun : begun = ⟨s, [start], none⟩ := rfl
  have hfails := firstFailure?_open s calls start []
  rw [hbegun]
  refine ⟨hfails, fun i => getElem?_of_firstExcess?, fun hnone => ?_⟩
  rw [hfails, Option.map_eq_none_iff] at hnone
  obtain ⟨root, outer, hafter, hdepth, hmet⟩ :=
    afterCalls_open s calls start [] hnone
  rw [List.length_nil, Nat.zero_add] at hdepth
  rw [hafter]
  refine ⟨by omega, fun hne => ?_, fun heq hvalid => ?_⟩
  · have hlength : outer.length = starts calls - ends calls := by omega
    rw [run_render_open s root (by omega), hlength]
    exact ⟨rfl, rfl⟩
  · obtain rfl : outer = [] := List.eq_nil_of_length_eq_zero (by omega)
    have hevents : root.toNode.events = documentEvents s name ns calls := by
      rw [documentEvents, settledAttributes_eq_foldl, List.foldl_append,
        ← Settings.declarationAttributes_eq_foldl, OpenElement.toNode,
        Node.events, ← List.cons_append, ← pending_nil, hmet]
      rfl
    refine ⟨root, rfl, run_render_unchecked hvalid root, hevents, ?_⟩
    intro tag attributes hmem
    rw [hevents] at hmem
    exact nodup_of_mem_documentEvents hmem

/-- Attributes may come after content, and again. -/
theorem replays_calls_late :
    let calls : List Call :=
      [.start "a" .core, .set "x" "1", .textElement "t" .core "v",
        .set "y" "2", .set "x" "3", .finish]
    let begun := ((createDocument "doc" .cityGml).run initial).state
    ∃ root, (afterCalls calls begun).stack = [root] ∧
      root.toNode.events =
        [.start "doc" [], .start "a" [("x", "3"), ("y", "2")], .start "t" [],
          .text "v", .finish, .finish, .finish] := by
  intro calls begun
  obtain ⟨hfails, -, hdone⟩ := replays_calls initial "doc" .cityGml calls
  have hexcess : firstExcess? 0 calls = none := by decide
  rw [hexcess] at hfails
  obtain ⟨-, -, hclosed⟩ := hdone hfails
  obtain ⟨root, hstack, -, hevents, -⟩ := hclosed (by decide) rfl
  refine ⟨root, hstack, ?_⟩
  rw [hevents]
  decide +kernel

end Builder

end CityMarkup
