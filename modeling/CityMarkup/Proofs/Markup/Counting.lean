import CityMarkup.Proofs.Markup.Acceptance

/-!
# Counting elements

A text can be checked by a reader and two counters.  The reader reports one tag
after the other and stops at the first fault; an end tag that does not close
the innermost open element is one.  The counters follow the reports and know
nothing of names: one has the depth, the other the number of document elements.
What they have counted in the end is what a grammar of nested elements says of
the reports, and the check of a document answers accordingly.
-/

namespace CityMarkup

namespace Markup

/-! ## The reader -/

/-- What a reader reports: the tags of elements, each with a name, and anything
else. -/
inductive Report where
  | start (name : List Char)
  | finish (name : List Char)
  | empty (name : List Char)
  | other
deriving DecidableEq, Repr

/-- The report about a token inside of open elements, whose names are given
innermost first, and the names of those that are open after it. -/
def Token.report (names : List (List Char)) :
    Token → Except Fault (Report × List (List Char))
  | .opening raw => .ok (.start (openingName raw), openingName raw :: names)
  | .empty raw => .ok (.empty (openingName raw), names)
  | .closing raw =>
    let found := closingName raw
    match names with
    | [] => .error (.nothingToClose (String.ofList found))
    | name :: names =>
      if name = found then
        .ok (.finish found, names)
      else
        .error (.tagMismatch (String.ofList name) (String.ofList found))
  | .text _ | .aside => .ok (.other, names)

/-- The reader reports an end tag only if it names the innermost open element,
which is then closed. -/
theorem Token.report_closing_eq_ok_iff {raw : List Char}
    {names next : List (List Char)} {report : Report} :
    (closing raw).report names = .ok (report, next) ↔
      names = closingName raw :: next ∧
        report = .finish (closingName raw) := by
  cases names with
  | nil => exact iff_of_false (by rintro ⟨⟩) (by rintro ⟨⟨⟩, -⟩)
  | cons name names =>
      by_cases hname : name = closingName raw
      · subst hname
        rw [Token.report]
        simp only [if_true, Except.ok.injEq, Prod.mk.injEq, List.cons.injEq,
          true_and]
        exact and_comm.trans (and_congr_right' eq_comm)
      · rw [Token.report]
        simp [hname]

/-- The reports of a reader up to the first fault, and that fault. -/
structure Reading where
  reports : List Report
  fault : Option Fault
deriving DecidableEq, Repr

namespace Reading

/-- Reads tokens inside of open elements.  The given fault is the one that
comes behind the tokens. -/
def ofTokens (fault : Option Fault) (names : List (List Char)) :
    List Token → Reading
  | [] => ⟨[], fault⟩
  | token :: rest =>
    match token.report names with
    | .error found => ⟨[], some found⟩
    | .ok (report, names) =>
      let others := ofTokens fault names rest
      ⟨report :: others.reports, others.fault⟩

/-- Reads a text from its beginning. -/
def ofText (cs : List Char) : Reading :=
  let pieces := split (dropByteOrderMark cs)
  ofTokens pieces.fault [] pieces.tokens

end Reading

/-! ## The counters -/

/-- The number of open elements, and the number of document elements so far. -/
structure Tally where
  depth : Nat
  roots : Nat
deriving DecidableEq, Repr

namespace Tally

/-- Counts elements as document elements if no other element is open. -/
def count (t : Tally) (n : Nat) : Tally :=
  if t.depth = 0 then { t with roots := t.roots + n } else t

/-- The counters after one more report.  Without an open element there is
nothing to close. -/
def step (t : Tally) : Report → Except StructureFault Tally
  | .start _ => .ok ⟨(t.count 1).depth + 1, (t.count 1).roots⟩
  | .empty _ => .ok (t.count 1)
  | .finish _ =>
    if t.depth = 0 then
      .error (.other "closing tag without matching start")
    else
      .ok { t with depth := t.depth - 1 }
  | .other => .ok t

/-- The counters after some reports. -/
def run (t : Tally) : List Report → Except StructureFault Tally
  | [] => .ok t
  | report :: rest =>
    match t.step report with
    | .ok next => next.run rest
    | .error fault => .error fault

end Tally

/-- What two counters tell of a reading: the first thing that is wrong. -/
def Reading.verdict (r : Reading) : Except Failure Unit :=
  match Tally.run ⟨0, 0⟩ r.reports, r.fault with
  | .error fault, _ => .error (.document fault)
  | .ok _, some fault => .error (.markup fault)
  | .ok t, none =>
    if t.depth ≠ 0 then
      .error (.document (.unclosed t.depth))
    else if t.roots ≠ 1 then
      .error (.document (.documentElements t.roots))
    else
      .ok ()

/-! ## The grammar of reports -/

/-- Whether reports are about so many complete elements, one after the other,
with anything else between them. -/
inductive AreElements : Nat → List Report → Prop where
  | nil : AreElements 0 []
  | other {n : Nat} {rest : List Report} (hrest : AreElements n rest) :
      AreElements n (.other :: rest)
  | empty {name : List Char} {n : Nat} {rest : List Report}
      (hrest : AreElements n rest) :
      AreElements (n + 1) (.empty name :: rest)
  | element {name : List Char} {inner n : Nat} {content rest : List Report}
      (hcontent : AreElements inner content) (hrest : AreElements n rest) :
      AreElements (n + 1) (.start name :: (content ++ .finish name :: rest))

/-- Whether the elements with the given names, innermost first, have begun in
some reports and not come to their ends, while all others are complete. -/
inductive LeaveOpen : List (List Char) → List Report → Prop where
  | complete {n : Nat} {reports : List Report}
      (h : AreElements n reports) : LeaveOpen [] reports
  | inside {name : List Char} {names : List (List Char)} {n : Nat}
      {before content : List Report} (hbefore : LeaveOpen names before)
      (hcontent : AreElements n content) :
      LeaveOpen (name :: names) (before ++ .start name :: content)

theorem leaveOpen_nil {reports : List Report} :
    LeaveOpen [] reports ↔ ∃ n, AreElements n reports := by
  constructor
  · intro h
    cases h with
    | complete helements => exact ⟨_, helements⟩
  · rintro ⟨n, helements⟩
    exact .complete helements

theorem AreElements.append {m n : Nat} {first second : List Report}
    (hfirst : AreElements m first) (hsecond : AreElements n second) :
    AreElements (m + n) (first ++ second) := by
  induction hfirst with
  | nil =>
      rw [Nat.zero_add]
      exact hsecond
  | other _ ih => exact .other ih
  | empty _ ih =>
      rw [Nat.add_right_comm]
      exact .empty ih
  | element hcontent _ _ ih =>
      rw [Nat.add_right_comm, List.cons_append, List.append_assoc]
      exact .element hcontent ih

theorem LeaveOpen.append {names : List (List Char)} {n : Nat}
    {before more : List Report} (h : LeaveOpen names before)
    (hmore : AreElements n more) : LeaveOpen names (before ++ more) := by
  cases h with
  | complete helements => exact .complete (helements.append hmore)
  | inside hbefore hcontent =>
      rw [List.append_assoc]
      exact .inside hbefore (hcontent.append hmore)

/-! ## What the reader reports -/

/-- A report keeps to the grammar: the elements that the reader takes for open
are those that have begun and not come to their ends. -/
theorem LeaveOpen.report {names next : List (List Char)}
    {before : List Report} (h : LeaveOpen names before) {token : Token}
    {report : Report} (hreport : token.report names = .ok (report, next)) :
    LeaveOpen next (before ++ [report]) := by
  cases token with
  | text raw =>
      cases hreport
      exact h.append (.other .nil)
  | aside =>
      cases hreport
      exact h.append (.other .nil)
  | empty raw =>
      cases hreport
      exact h.append (.empty .nil)
  | opening raw =>
      cases hreport
      exact .inside h .nil
  | closing raw =>
      obtain ⟨hnames, rfl⟩ := Token.report_closing_eq_ok_iff.mp hreport
      cases h with
      | complete helements => cases hnames
      | inside hbefore hcontent =>
          cases hnames
          rw [List.append_assoc, List.cons_append]
          exact hbefore.append (.element hcontent .nil)

theorem LeaveOpen.ofTokens {names : List (List Char)} {before : List Report}
    (h : LeaveOpen names before) (fault : Option Fault)
    (tokens : List Token) :
    ∃ next, LeaveOpen next
      (before ++ (Reading.ofTokens fault names tokens).reports) := by
  induction tokens generalizing names before with
  | nil =>
      refine ⟨names, ?_⟩
      rw [Reading.ofTokens, List.append_nil]
      exact h
  | cons token rest ih =>
      rw [Reading.ofTokens]
      cases hreport : token.report names with
      | error found =>
          refine ⟨names, ?_⟩
          simp only [List.append_nil]
          exact h
      | ok found =>
          obtain ⟨next, hnext⟩ := ih (h.report hreport)
          refine ⟨next, ?_⟩
          rw [List.append_assoc] at hnext
          exact hnext

/-- Whatever a text is, the reports about it are nested elements, of which some
may not have come to their ends. -/
theorem exists_leaveOpen (cs : List Char) :
    ∃ names, LeaveOpen names (Reading.ofText cs).reports :=
  (LeaveOpen.complete .nil).ofTokens _ _

/-! ## What the counters count -/

namespace Tally

theorem run_append {t next : Tally} {first : List Report}
    (h : t.run first = .ok next) (second : List Report) :
    t.run (first ++ second) = next.run second := by
  induction first generalizing t with
  | nil =>
      cases h
      rfl
  | cons report rest ih =>
      rw [run] at h
      rw [List.cons_append, run]
      cases hstep : t.step report with
      | error fault =>
          rw [hstep] at h
          cases h
      | ok middle =>
          rw [hstep] at h
          exact ih h

theorem run_append_error {t : Tally} {first : List Report}
    {fault : StructureFault} (h : t.run first = .error fault)
    (second : List Report) : t.run (first ++ second) = .error fault := by
  induction first generalizing t with
  | nil => cases h
  | cons report rest ih =>
      rw [run] at h
      rw [List.cons_append, run]
      cases hstep : t.step report with
      | error found =>
          rw [hstep] at h
          exact h
      | ok middle =>
          rw [hstep] at h
          exact ih h

theorem exists_of_run_append {t last : Tally} {first second : List Report}
    (h : t.run (first ++ second) = .ok last) :
    ∃ middle, t.run first = .ok middle ∧ middle.run second = .ok last := by
  cases hfirst : t.run first with
  | ok middle =>
      rw [run_append hfirst] at h
      exact ⟨middle, rfl, h⟩
  | error fault =>
      rw [run_append_error hfirst] at h
      cases h

theorem count_zero (t : Tally) : t.count 0 = t := by
  rw [count]
  split <;> rfl

theorem count_count (t : Tally) (m n : Nat) :
    (t.count m).count n = t.count (m + n) := by
  by_cases h : t.depth = 0
  · simp [count, h, Nat.add_assoc]
  · simp [count, h]

theorem depth_count (t : Tally) (n : Nat) : (t.count n).depth = t.depth := by
  rw [count]
  split <;> rfl

theorem count_of_open {t : Tally} (h : t.depth ≠ 0) (n : Nat) :
    t.count n = t := by
  rw [count, if_neg h]

theorem step_start (t : Tally) (name : List Char) :
    t.step (.start name) =
      .ok ⟨(t.count 1).depth + 1, (t.count 1).roots⟩ := rfl

theorem step_finish (depth roots : Nat) (name : List Char) :
    step ⟨depth + 1, roots⟩ (.finish name) = .ok ⟨depth, roots⟩ := rfl

end Tally

/-- Complete elements leave the depth as it is, and each of them is counted if
no other element is open. -/
theorem AreElements.run_eq {n : Nat} {reports : List Report}
    (h : AreElements n reports) (t : Tally) :
    t.run reports = .ok (t.count n) := by
  induction h generalizing t with
  | nil => rw [Tally.run, t.count_zero]
  | other _ ih => exact ih t
  | @empty name n rest _ ih =>
      rw [Nat.add_comm, ← t.count_count]
      exact ih (t.count 1)
  | @element name inner n content rest _ _ ihcontent ihrest =>
      let inside : Tally := ⟨(t.count 1).depth + 1, (t.count 1).roots⟩
      have hcontent : inside.run content = .ok inside := by
        rw [ihcontent, Tally.count_of_open (Nat.succ_ne_zero _)]
      rw [Tally.run, t.step_start]
      simp only
      rw [Tally.run_append hcontent, Tally.run, Tally.step_finish]
      simp only
      rw [ihrest, t.count_count, Nat.add_comm]

theorem AreElements.run_begin {n : Nat} {reports : List Report}
    (h : AreElements n reports) :
    Tally.run ⟨0, 0⟩ reports = .ok ⟨0, n⟩ := by
  rw [h.run_eq, Tally.count, if_pos rfl, Nat.zero_add]

/-- The depth is the number of elements that are left open. -/
theorem LeaveOpen.exists_run {names : List (List Char)}
    {reports : List Report} (h : LeaveOpen names reports) :
    ∃ roots, Tally.run ⟨0, 0⟩ reports = .ok ⟨names.length, roots⟩ := by
  induction h with
  | complete h => exact ⟨_, h.run_begin⟩
  | @inside name names n before content _ hcontent ih =>
      obtain ⟨roots, hbefore⟩ := ih
      let counted : Tally := Tally.count ⟨names.length, roots⟩ 1
      have hdepth : counted.depth = names.length := by
        rw [Tally.depth_count]
      refine ⟨counted.roots, ?_⟩
      rw [Tally.run_append hbefore, Tally.run, Tally.step_start]
      simp only
      rw [hcontent.run_eq, Tally.count_of_open (Nat.succ_ne_zero _), hdepth]
      rfl

/-- An end is reported only while an element is open, so the depth can always
be lowered. -/
theorem exists_run_before_finish {cs name : List Char}
    {before after : List Report}
    (h : (Reading.ofText cs).reports = before ++ .finish name :: after) :
    ∃ t, Tally.run ⟨0, 0⟩ before = .ok t ∧ 0 < t.depth := by
  obtain ⟨names, hnames⟩ := exists_leaveOpen cs
  obtain ⟨roots, hrun⟩ := hnames.exists_run
  rw [h] at hrun
  obtain ⟨t, hbefore, hafter⟩ := Tally.exists_of_run_append hrun
  refine ⟨t, hbefore, Nat.pos_of_ne_zero fun hzero => ?_⟩
  rw [Tally.run, Tally.step, if_pos hzero] at hafter
  cases hafter

/-! ## Nesting and counting -/

/-- The counters that belong to a nesting. -/
def Nesting.tally (n : Nesting) : Tally :=
  ⟨n.names.length, n.roots⟩

theorem Nesting.tally_begin (n : Nesting) :
    n.begin.tally = n.tally.count 1 := by
  obtain ⟨names, roots⟩ := n
  cases names <;> rfl

/-- A token changes the nesting as the report about it changes the counters, and
it is a fault for both or for none. -/
theorem Nesting.step_cases (n : Nesting) (token : Token) :
    (∃ report next, n.step token = .ok next ∧
      token.report n.names = .ok (report, next.names) ∧
      n.tally.step report = .ok next.tally) ∨
    ∃ fault, n.step token = .error fault ∧
      token.report n.names = .error fault := by
  cases token with
  | text raw => exact .inl ⟨.other, n, rfl, rfl, rfl⟩
  | aside => exact .inl ⟨.other, n, rfl, rfl, rfl⟩
  | empty raw =>
      refine .inl ⟨.empty (openingName raw), n.begin, rfl, ?_, ?_⟩
      · rw [n.names_begin]
        rfl
      · rw [n.tally_begin]
        rfl
  | opening raw =>
      refine .inl ⟨.start (openingName raw), _, rfl, rfl, ?_⟩
      rw [Tally.step_start, ← n.tally_begin, tally, n.names_begin]
      rfl
  | closing raw =>
      obtain ⟨names, roots⟩ := n
      cases names with
      | nil => exact .inr ⟨_, rfl, rfl⟩
      | cons name names =>
          by_cases hname : name = closingName raw
          · refine .inl ⟨.finish (closingName raw), ⟨names, roots⟩, ?_, ?_,
              rfl⟩
            · rw [step]
              exact if_pos hname
            · rw [Token.report]
              exact if_pos hname
          · refine .inr ⟨.tagMismatch (String.ofList name)
              (String.ofList (closingName raw)), ?_, ?_⟩
            · rw [step]
              exact if_neg hname
            · rw [Token.report]
              exact if_neg hname

/-- The reader stops where the nesting does, and the counters follow it to that
point. -/
theorem Nesting.run_cases (n : Nesting) (fault : Option Fault)
    (tokens : List Token) :
    (∃ next, n.run tokens = .ok next ∧
      (Reading.ofTokens fault n.names tokens).fault = fault ∧
      n.tally.run (Reading.ofTokens fault n.names tokens).reports =
        .ok next.tally) ∨
    ∃ found t, n.run tokens = .error found ∧
      (Reading.ofTokens fault n.names tokens).fault = some found ∧
      n.tally.run (Reading.ofTokens fault n.names tokens).reports = .ok t := by
  induction tokens generalizing n with
  | nil => exact .inl ⟨n, rfl, rfl, rfl⟩
  | cons token rest ih =>
      rw [run, Reading.ofTokens]
      rcases n.step_cases token with ⟨report, middle, hstep, hreport, htally⟩ |
        ⟨found, hstep, hreport⟩
      · rw [hstep, hreport]
        simp only [Tally.run, htally]
        exact ih middle
      · rw [hstep, hreport]
        exact .inr ⟨found, n.tally, rfl, rfl, rfl⟩

/-- A text is rejected at an end tag that does not name the innermost open
element, whatever follows. -/
theorem checkText_of_mismatch {cs raw : List Char} {before after : List Token}
    {n : Nesting}
    (htokens : (split (dropByteOrderMark cs)).tokens =
      before ++ .closing raw :: after)
    (hbefore : Nesting.run ⟨[], 0⟩ before = .ok n)
    (hname : n.names.head? ≠ some (closingName raw)) :
    ∃ fault, n.step (.closing raw) = .error fault ∧
      checkText cs = .error (.markup fault) := by
  rcases n.step_cases (.closing raw) with ⟨report, next, -, hreport, -⟩ |
    ⟨fault, hstep, -⟩
  · obtain ⟨hnames, -⟩ := Token.report_closing_eq_ok_iff.mp hreport
    rw [hnames] at hname
    exact absurd rfl hname
  · refine ⟨fault, hstep, ?_⟩
    rw [checkText, htokens, Nesting.run_append hbefore, Nesting.run, hstep]

/-- The check of a text answers as the two counters do. -/
theorem checkText_eq_verdict (cs : List Char) :
    checkText cs = (Reading.ofText cs).verdict := by
  let pieces := split (dropByteOrderMark cs)
  have hcases :
      (∃ next, Nesting.run ⟨[], 0⟩ pieces.tokens = .ok next ∧
        (Reading.ofText cs).fault = pieces.fault ∧
        Tally.run ⟨0, 0⟩ (Reading.ofText cs).reports = .ok next.tally) ∨
      ∃ found t, Nesting.run ⟨[], 0⟩ pieces.tokens = .error found ∧
        (Reading.ofText cs).fault = some found ∧
        Tally.run ⟨0, 0⟩ (Reading.ofText cs).reports = .ok t :=
    Nesting.run_cases ⟨[], 0⟩ pieces.fault pieces.tokens
  rw [checkText, Reading.verdict]
  rcases hcases with ⟨⟨names, roots⟩, hrun, hfault, htally⟩ |
    ⟨found, t, hrun, hfault, htally⟩
  · rw [hrun, hfault, htally]
    cases pieces.fault with
    | some fault => rfl
    | none => cases names <;> rfl
  · rw [hrun, hfault, htally]

/-! ## The answers of the check -/

/-- What the check of a document answers: that the bytes are no text, or the
first fault of the reader, or how many elements have not come to their ends, or
how many document elements there are if that is not one, or that the document
is well formed. -/
inductive Judged (bytes : List UInt8) : Except Failure Unit → Prop where
  | notText {fault : Utf8.Fault} (hdecode : Utf8.decode bytes = .error fault) :
      Judged bytes (.error (.document (.notText fault)))
  | faulty {cs : List Char} {fault : Fault}
      (hdecode : Utf8.decode bytes = .ok cs)
      (hfault : (Reading.ofText cs).fault = some fault) :
      Judged bytes (.error (.markup fault))
  | unclosed {cs : List Char} {names : List (List Char)}
      (hdecode : Utf8.decode bytes = .ok cs)
      (hfault : (Reading.ofText cs).fault = none)
      (hopen : LeaveOpen names (Reading.ofText cs).reports)
      (hnames : names ≠ []) :
      Judged bytes (.error (.document (.unclosed names.length)))
  | documentElements {cs : List Char} {n : Nat}
      (hdecode : Utf8.decode bytes = .ok cs)
      (hfault : (Reading.ofText cs).fault = none)
      (helements : AreElements n (Reading.ofText cs).reports)
      (hcount : n ≠ 1) :
      Judged bytes (.error (.document (.documentElements n)))
  | wellFormed {cs : List Char} (hdecode : Utf8.decode bytes = .ok cs)
      (hfault : (Reading.ofText cs).fault = none)
      (helements : AreElements 1 (Reading.ofText cs).reports) :
      Judged bytes (.ok ())

theorem checkWellFormed_of_decode {bytes : List UInt8} {cs : List Char}
    (h : Utf8.decode bytes = .ok cs) :
    checkWellFormed bytes = (Reading.ofText cs).verdict := by
  rw [checkWellFormed, h]
  exact checkText_eq_verdict cs

theorem Judged.checkWellFormed_eq {bytes : List UInt8}
    {answer : Except Failure Unit} (h : Judged bytes answer) :
    checkWellFormed bytes = answer := by
  cases h with
  | notText hdecode => rw [checkWellFormed, hdecode]
  | @faulty cs fault hdecode hfault =>
      obtain ⟨names, hnames⟩ := exists_leaveOpen cs
      obtain ⟨roots, hrun⟩ := hnames.exists_run
      rw [checkWellFormed_of_decode hdecode, Reading.verdict, hrun, hfault]
  | unclosed hdecode hfault hopen hnames =>
      obtain ⟨roots, hrun⟩ := hopen.exists_run
      have hdepth := mt List.length_eq_zero_iff.mp hnames
      rw [checkWellFormed_of_decode hdecode, Reading.verdict, hrun, hfault]
      exact if_pos hdepth
  | documentElements hdecode hfault helements hcount =>
      rw [checkWellFormed_of_decode hdecode, Reading.verdict,
        helements.run_begin, hfault]
      exact if_pos hcount
  | wellFormed hdecode hfault helements =>
      rw [checkWellFormed_of_decode hdecode, Reading.verdict,
        helements.run_begin, hfault]
      rfl

theorem exists_judged (bytes : List UInt8) :
    ∃ answer, Judged bytes answer := by
  cases hdecode : Utf8.decode bytes with
  | error fault => exact ⟨_, .notText hdecode⟩
  | ok cs =>
      cases hfault : (Reading.ofText cs).fault with
      | some fault => exact ⟨_, .faulty hdecode hfault⟩
      | none =>
          obtain ⟨names, hnames⟩ := exists_leaveOpen cs
          by_cases hempty : names = []
          · subst hempty
            obtain ⟨n, helements⟩ := leaveOpen_nil.mp hnames
            by_cases hcount : n = 1
            · subst hcount
              exact ⟨_, .wellFormed hdecode hfault helements⟩
            · exact ⟨_, .documentElements hdecode hfault helements hcount⟩
          · exact ⟨_, .unclosed hdecode hfault hnames hempty⟩

/-- How the failures of the check are worded: with a code, and with what is
wrong, which is the fault that was met or the number that was counted. -/
inductive Worded : Failure → String → Prop where
  | notText (fault : Utf8.Fault) :
      Worded (.document (.notText fault))
        ("[E2003] Invalid XML structure: " ++ fault.message)
  | faulty (fault : Fault) :
      Worded (.markup fault) ("[E2001] XML error: " ++ fault.message)
  | unclosed (count : Nat) :
      Worded (.document (.unclosed count))
        ("[E2003] Invalid XML structure: " ++
          (toString count ++ " unclosed element(s)"))
  | documentElements (count : Nat) :
      Worded (.document (.documentElements count))
        ("[E2003] Invalid XML structure: " ++
          ("expected one document element, found " ++ toString count))

theorem Judged.worded {bytes : List UInt8} {failure : Failure}
    (h : Judged bytes (.error failure)) : Worded failure failure.message := by
  cases h with
  | notText => exact .notText _
  | faulty => exact .faulty _
  | unclosed => exact .unclosed _
  | documentElements => exact .documentElements _

/-- The check of a document gives the answer that its reports call for, and no
other, and a failure names in words what was met or counted.  The answer is that
of a reader and two counters, and as the reader reports an end only while an
element is open, the counters never fail. -/
theorem checkWellFormed_eq_iff_judged (bytes : List UInt8) :
    (∀ answer, checkWellFormed bytes = answer ↔ Judged bytes answer) ∧
    (∀ failure, checkWellFormed bytes = .error failure →
      Worded failure failure.message) ∧
    ∀ cs, Utf8.decode bytes = .ok cs →
      checkWellFormed bytes = (Reading.ofText cs).verdict ∧
      (∃ t, Tally.run ⟨0, 0⟩ (Reading.ofText cs).reports = .ok t) ∧
      ∀ name before after,
        (Reading.ofText cs).reports = before ++ .finish name :: after →
          ∃ t, Tally.run ⟨0, 0⟩ before = .ok t ∧ 0 < t.depth := by
  have hjudged : Judged bytes (checkWellFormed bytes) := by
    obtain ⟨answer, hanswer⟩ := exists_judged bytes
    rw [hanswer.checkWellFormed_eq]
    exact hanswer
  refine ⟨fun answer => ⟨?_, Judged.checkWellFormed_eq⟩, ?_, ?_⟩
  · rintro rfl
    exact hjudged
  · intro failure hfailure
    rw [hfailure] at hjudged
    exact hjudged.worded
  · intro cs hdecode
    obtain ⟨names, hnames⟩ := exists_leaveOpen cs
    obtain ⟨roots, hrun⟩ := hnames.exists_run
    exact ⟨checkWellFormed_of_decode hdecode, ⟨_, hrun⟩,
      fun name before after => exists_run_before_finish⟩

end Markup

end CityMarkup
