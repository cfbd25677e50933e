import TreePath.Proofs.Grammar.Adequacy

/-
  Texts one behind another.  What is behind a text that strict
  reading takes is read as it would be on its own, only
  further on: nothing in the first text reaches past its end.

  Key definitions include:
    * `LocatedStep.shift`
    * `SyntaxError.within`
    * `Scanner.relocate`
    * `Scanner.RunsAlike`
    * `Scanner.Joins`

  Main statements:
    * `Scanner.runsAlike`
    * `Scanner.joins_of_row`
    * `Scanner.strict_run_append`
-/

------------------------------------------------------------
-- Further On in a Longer Text
------------------------------------------------------------

namespace TreePath

/- A step that lies further on. -/
def LocatedStep.shift
    (count : Nat)
    (step : LocatedStep) : LocatedStep :=
  { step with offset := step.offset.map (· + count) }

/- A fault that shows further on in a longer text. -/
def SyntaxError.within
    (source : String)
    (count : Nat)
    (e : SyntaxError) : SyntaxError :=
  ⟨e.offset + count, source, e.fault⟩

namespace Scanner

open Grammar

variable {s : Scanner} {rest : List Char}

/- A scanner in front of the same characters further on. -/
def relocate
    (source : String)
    (count : Nat)
    (s : Scanner) : Scanner :=
  { s with source := source, offset := s.offset + count }

/- A relocated scanner moves on as the scanner does. -/
theorem moveTo_relocate
    (source : String)
    (count size : Nat)
    (s : Scanner)
    (rest : List Char) :
    (s.relocate source count).moveTo
        ((s.relocate source count).offset + size) rest =
      (s.moveTo (s.offset + size) rest).relocate
        source count := by
  simp [relocate, moveTo, Nat.add_right_comm]

/-
  A scanner yields the same after it was relocated: the same
  steps and the same fault, further on.
-/
structure RunsAlike
    (source : String)
    (count : Nat)
    (s : Scanner) : Prop where
  steps :
    (s.relocate source count).run.value.steps =
      s.run.value.steps.map (LocatedStep.shift count)
  fault :
    (s.relocate source count).run.value.fault =
      s.run.value.fault.map (SyntaxError.within source count)

variable {source : String} {count : Nat}

/- If it does so behind a step, it does so in front of it. -/
theorem RunsAlike.of_yieldStep
    {after : Scanner}
    {step : Step}
    {warnings others : List Warning}
    (hPhase : s.phase = .running)
    (hAdvance :
      s.advance = after.yieldStep step s.offset warnings)
    (hMoved :
      (s.relocate source count).advance =
        (after.relocate source count).yieldStep
          step (s.offset + count) others)
    (hLater : after.RunsAlike source count) :
    s.RunsAlike source count := by
  have hRun := run_of_yieldStep hPhase hAdvance
  have hOther :=
    run_of_yieldStep (s := s.relocate source count)
      hPhase hMoved
  refine ⟨?_, ?_⟩
  · rw [hOther, hRun]
    simp only [Run.cons, hLater.steps]
    rfl
  · rw [hOther, hRun]
    exact hLater.fault

/- A fault is the same fault further on. -/
theorem RunsAlike.of_yieldFault
    {after moved : Scanner}
    {fault : Fault}
    (hPhase : s.phase = .running)
    (hAdvance : s.advance = after.yieldFault s.offset fault)
    (hMoved :
      (s.relocate source count).advance =
        moved.yieldFault (s.offset + count) fault)
    (hSource : moved.source = source) :
    s.RunsAlike source count := by
  have hRun := run_of_yieldFault hPhase hAdvance
  have hOther :=
    run_of_yieldFault (s := s.relocate source count)
      hPhase hMoved
  refine ⟨?_, ?_⟩
  · rw [hOther, hRun]
    rfl
  · rw [hOther, hRun, hSource]
    rfl

/-
  A run does not depend on where its characters stand, nor on
  the text that they stand in.
-/
theorem runsAlike
    (source : String)
    (count : Nat)
    (hPhase : s.phase = .running) :
    s.RunsAlike source count := by
  induction s, hPhase using running_induction with
  | nil s hPhase hRest =>
      have hRun := run_nil hPhase hRest
      have hOther :=
        run_nil (s := s.relocate source count) hPhase hRest
      refine ⟨?_, ?_⟩
      · rw [hOther, hRun]
        rfl
      · rw [hOther, hRun]
        rfl
  | dot s hPhase rest hRest ih =>
      have hRun := run_dot hPhase hRest
      have hOther :=
        run_dot (s := s.relocate source count) hPhase hRest
      rw [moveTo_relocate] at hOther
      refine ⟨?_, ?_⟩
      · rw [hOther, hRun]
        exact ih.steps
      · rw [hOther, hRun]
        exact ih.fault
  | name s hPhase name rest hName hRest ih =>
      have hMoved :=
        advance_name (s := s.relocate source count) hName hRest
      rw [moveTo_relocate] at hMoved
      exact .of_yieldStep hPhase (advance_name hName hRest)
        hMoved ih
  | group s hPhase body hRest ih =>
      have hBehind :
          (s.relocate source count).behindGroup body =
            (s.behindGroup body).relocate source count :=
        moveTo_relocate source count _ s _
      cases hContent : (readGroup body).content with
      | ok key =>
          have hMoved :=
            advance_key (s := s.relocate source count)
              hRest hContent
          rw [hBehind] at hMoved
          exact .of_yieldStep hPhase
            (advance_key hRest hContent) hMoved ih
      | error fault =>
          cases hMode : s.mode with
          | strict =>
              have hMoved :=
                advance_refused_strict
                  (s := s.relocate source count)
                  hMode hRest hContent
              exact .of_yieldFault hPhase
                (advance_refused_strict hMode hRest hContent)
                hMoved rfl
          | loose =>
              have hMoved :=
                advance_refused_loose
                  (s := s.relocate source count)
                  hMode hRest hContent
              rw [hBehind] at hMoved
              exact .of_yieldStep hPhase
                (advance_refused_loose hMode hRest hContent)
                hMoved ih
  | closing s hPhase rest hMode hRest =>
      have hMoved :=
        advance_closing (s := s.relocate source count)
          hMode hRest
      exact .of_yieldFault hPhase (advance_closing hMode hRest)
        hMoved rfl

------------------------------------------------------------
-- Texts One behind Another
------------------------------------------------------------

/-
  A text is read as two others: first come the steps of the
  first, and then the steps of the second, further on by a
  number of bytes.  The fault, if there is any, is the fault
  of the second, further on as well.
-/
structure Joins
    (first second whole : String)
    (count : Nat) : Prop where
  steps :
    (ofText .strict whole).run.value.steps =
      (ofText .strict first).run.value.steps ++
        (ofText .strict second).run.value.steps.map
          (LocatedStep.shift count)
  fault :
    (ofText .strict whole).run.value.fault =
      (ofText .strict second).run.value.fault.map
        (SyntaxError.within whole count)

/-
  A row in front of dots or of a group is read as it is on its
  own, and what comes behind it and the dots is read further
  on.
-/
theorem joins_of_row
    {first second whole : String}
    {lexemes : List Lexeme}
    (dots : String)
    (hFirst : first ≠ "")
    (hRow : Lexeme.Row lexemes first.toList)
    (hSecond : second ≠ "")
    (hDots : dots = "" ∨ dots = ".")
    (hSeam :
      ∀ c ∈ (dots ++ second).toList.head?, c = '.' ∨ c = '[')
    (hWhole : whole = first ++ (dots ++ second)) :
    Joins first second whole
      (Utf8.size first.toList + Utf8.size dots.toList) := by
  have hText : whole ≠ "" := by
    rw [hWhole, ne_eq, String.append_eq_empty_iff]
    exact fun hBoth => hFirst hBoth.1
  have hRest :
      (running .strict whole).rest =
        first.toList ++ (dots ++ second).toList := by
    rw [← String.toList_append, ← hWhole]
    rfl
  rcases run_row_append (s := running .strict whole) rfl hRow
      hSeam hRest with
    ⟨hFault, hSteps, _⟩
  -- The scanner behind the row and the dots is one in front
  -- of the second text.
  have hBehind :
      ((running .strict whole).moveTo
          (0 + Utf8.size first.toList)
          (dots ++ second).toList).run =
        ((running .strict second).relocate whole
          (Utf8.size first.toList +
            Utf8.size dots.toList)).run := by
    rcases hDots with rfl | rfl
    · rw [String.empty_append]
      simp only [running, relocate, moveTo, ofText,
        Nat.zero_add]
      rfl
    · have hBehindFirst :
          ((running .strict whole).moveTo
              (0 + Utf8.size first.toList)
              ("." ++ second).toList).rest =
            '.' :: second.toList := by
        simp [moveTo, String.toList_append]
      rw [run_dot rfl hBehindFirst]
      simp only [running, relocate, moveTo, ofText,
        Nat.zero_add]
      rfl
  rcases runsAlike (s := running .strict second) whole
      (Utf8.size first.toList + Utf8.size dots.toList) rfl with
    ⟨hLaterSteps, hLaterFault⟩
  rw [← ofText_run .strict hText] at hFault hSteps
  rw [← hBehind, ← ofText_run .strict hSecond]
    at hLaterSteps hLaterFault
  refine ⟨?_, hFault.trans hLaterFault⟩
  rw [(ofText_run_row hFirst hRow).2, ← hLaterSteps]
  exact hSteps

/-
  Strict reading goes on behind a text that it takes.  Behind
  a dot any text is read as on its own, and so is a text that
  begins with a dot or an opening bracket without one.
-/
theorem strict_run_append
    {first second : String}
    (hFirst : (ofText .strict first).run.value.fault = none)
    (hSecond : second ≠ "") :
    Joins first second (first ++ "." ++ second)
        (Utf8.size first.toList + 1) ∧
      ((second.toList.head? = some '[' ∨
          second.toList.head? = some '.') →
        Joins first second (first ++ second)
          (Utf8.size first.toList)) := by
  rcases row_of_ofText_run hFirst with ⟨hText, lexemes, hRow⟩
  refine ⟨?_, ?_⟩
  · refine
      joins_of_row "." hText hRow hSecond
        (Or.inr rfl) ?_ (String.append_assoc ..)
    intro c hHead
    have hDot : '.' = c := by
      simpa [String.toList_append] using hHead
    exact Or.inl hDot.symm
  · intro hFront
    refine
      joins_of_row "" hText hRow hSecond
        (Or.inl rfl) ?_ (by rw [String.empty_append])
    intro c hHead
    rw [String.empty_append, Option.mem_def] at hHead
    rw [hHead, Option.some.injEq, Option.some.injEq] at hFront
    exact hFront.symm

/-
  Quotes in the second text do not reach back: the group in
  the first is closed, and the fault lies where it did.
-/
theorem strict_run_append_unclosed :
    let first := "é['a]b']"
    let second := "['c'].d[x"
    let steps : List LocatedStep :=
      [⟨.named "é", some 0⟩, ⟨.keyed (.name "a]b"), some 2⟩,
        ⟨.keyed (.name "c"), some 9⟩, ⟨.named "d", some 15⟩]
    let run := (ofText .strict (first ++ second)).run.value
    (ofText .strict first).run.value.fault = none ∧
      second ≠ "" ∧
        second.toList.head? = some '[' ∧
          run.steps = steps ∧
            run.fault =
              some ⟨16, first ++ second, .unclosedBracket⟩ := by
  intro first second steps run
  have hFirst :
      (ofText .strict first).run.value.fault = none := by
    decide +kernel
  have hSecond : second ≠ "" := by decide
  have hFront : second.toList.head? = some '[' := by decide
  rcases strict_run_append hFirst hSecond with ⟨_, hGlued⟩
  rcases hGlued (Or.inl hFront) with ⟨hSteps, hFault⟩
  refine ⟨hFirst, hSecond, hFront, ?_, ?_⟩
  · rw [show run.steps = _ from hSteps]
    decide +kernel
  · rw [show run.fault = _ from hFault]
    decide +kernel

end Scanner

end TreePath
