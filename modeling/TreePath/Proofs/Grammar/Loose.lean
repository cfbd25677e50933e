import TreePath.Proofs.Grammar.Adequacy

/-
  Loose reading takes every text, keeps all of it but dots,
  and differs from strict reading only where it warns.

  Key definitions include:
    * `Grammar.Occupies`
    * `Grammar.Tiling`
    * `Step.warnings`

  Main statements:
    * `Scanner.tiling_run`
    * `Scanner.loose_run_tiles`
-/

------------------------------------------------------------
-- Tilings
------------------------------------------------------------

namespace TreePath

namespace Grammar

/-
  The text that a step of loose reading stands for, before the
  rest of the text.  A name holds neither dots nor opening
  brackets and is as long as it can be.  A demoted group is
  malformed and runs through its first closing bracket.  A key
  takes a group of the grammar.
-/
inductive Occupies
    (rest : List Char) : List Char → Step → Prop where
| name
    {text : List Char} :
    text ≠ [] → (∀ c ∈ text, c ≠ '.' ∧ c ≠ '[') →
      (∀ c ∈ rest.head?, c = '.' ∨ c = '[') →
        Occupies rest text (.named (String.ofList text))
| demoted
    {text : List Char} :
    RunsToClosing text rest →
      (∀ (lexeme : Lexeme) (later : List Char),
        lexeme.WellFormed →
          text ++ rest ≠ lexeme.chars ++ later) →
        Occupies rest text (.named (String.ofList text))
| group
    {lexeme : Lexeme}
    {key : Key} :
    lexeme.WellFormed → lexeme.step? = some (.keyed key) →
      Occupies rest lexeme.chars (.keyed key)

/-
  A text from a byte on is made of the spans of its steps, in
  order and without overlap, each at the offset of its step,
  and of dots.
-/
inductive Tiling : Nat → List LocatedStep → List Char → Prop where
| nil
    {offset : Nat} :
    Tiling offset [] []
| dot
    {offset : Nat}
    {steps : List LocatedStep}
    {rest : List Char} :
    Tiling (offset + 1) steps rest →
      Tiling offset steps ('.' :: rest)
| step
    {offset : Nat}
    {step : Step}
    {steps : List LocatedStep}
    {text rest : List Char} :
    Occupies rest text step →
      Tiling (offset + Utf8.size text) steps rest →
        Tiling offset (⟨step, some offset⟩ :: steps)
          (text ++ rest)

end Grammar

/-
  How often loose reading warns over a step: once for a group
  that became a name, and once for each closing bracket in any
  other name.
-/
def Step.warnings : Step → Nat
| .named name =>
    if name.toList.head? = some '[' then 1
    else name.toList.count ']'
| .keyed _ => 0

namespace Grammar

variable {text rest : List Char} {step : Step}

/- A demoted group begins with its bracket. -/
theorem RunsToClosing.head?_eq
    (hRuns : RunsToClosing text rest) :
    text.head? = some '[' := by
  rcases hRuns with ⟨inside, _, rfl | ⟨rfl, _⟩⟩
  · rfl
  · rfl

/- Without a warning a step stands for a lexeme. -/
theorem Occupies.exists_lexeme
    (hOccupies : Occupies rest text step)
    (hSilent : step.warnings = 0) :
    ∃ lexeme : Lexeme,
      lexeme.chars = text ∧ lexeme.WellFormed ∧
        lexeme.EndsBefore rest := by
  cases hOccupies with
  | name hNonempty hInside hStop =>
      rcases List.exists_cons_of_ne_nil hNonempty with
        ⟨c, tail, rfl⟩
      have hFirst := (hInside c (by simp)).2
      have hNone : ']' ∉ c :: tail := by
        simpa [Step.warnings, hFirst, List.count_eq_zero]
          using hSilent
      refine ⟨.name (c :: tail), rfl, ⟨by simp, ?_⟩, ?_⟩
      · intro d hMember
        rcases hInside d hMember with ⟨hDot, hOpening⟩
        refine ⟨hDot, hOpening, ?_⟩
        rintro rfl
        exact hNone hMember
      · rintro d hHead ⟨hDot, hOpening, _⟩
        rcases hStop d hHead with hSame | hSame
        · exact hDot hSame
        · exact hOpening hSame
  | demoted hRuns _ =>
      simp [Step.warnings, hRuns.head?_eq] at hSilent
  | @group lexeme key hWell hStep =>
      refine ⟨lexeme, rfl, hWell, ?_⟩
      cases lexeme with
      | name name => simp [Lexeme.step?] at hStep
      | dot => trivial
      | position digits => trivial
      | quoted quote name => trivial

/- A tiling without a warning is a row of lexemes. -/
theorem Tiling.exists_row
    {offset : Nat}
    {steps : List LocatedStep}
    {source : List Char}
    (hTiling : Tiling offset steps source)
    (hSilent : ∀ step ∈ steps, step.step.warnings = 0) :
    ∃ lexemes, Lexeme.Row lexemes source := by
  induction hTiling with
  | nil => exact ⟨[], .nil⟩
  | dot _ ih =>
      rcases ih hSilent with ⟨lexemes, hRow⟩
      exact ⟨.dot :: lexemes, hRow.dot⟩
  | step hOccupies _ ih =>
      rw [List.forall_mem_cons] at hSilent
      rcases ih hSilent.2 with ⟨lexemes, hRow⟩
      rcases hOccupies.exists_lexeme hSilent.1 with
        ⟨lexeme, rfl, hWell, hEnds⟩
      exact ⟨lexeme :: lexemes, .cons hWell hEnds hRow⟩

end Grammar

------------------------------------------------------------
-- Loose Runs
------------------------------------------------------------

namespace Scanner

open Grammar

variable {s : Scanner}

/- How often loose reading warns over some steps. -/
def warnings : List LocatedStep → Nat
| [] => 0
| step :: steps => step.step.warnings + warnings steps

/- Without a warning there is none over any of them. -/
theorem silent_of_warnings
    {steps : List LocatedStep}
    (hSilent : warnings steps = 0) :
    ∀ step ∈ steps, step.step.warnings = 0 := by
  induction steps with
  | nil => simp
  | cons step steps ih =>
      rw [warnings, Nat.add_eq_zero_iff] at hSilent
      rw [List.forall_mem_cons]
      exact ⟨hSilent.1, ih hSilent.2⟩

/-
  A loose run never fails, tiles its text with its steps, and
  warns as often as they say.
-/
theorem tiling_run
    (hMode : s.mode = .loose)
    (hPhase : s.phase = .running) :
    s.run.value.fault = none ∧
      Tiling s.offset s.run.value.steps s.rest ∧
        s.run.log.length = warnings s.run.value.steps := by
  induction s, hPhase using running_induction with
  | nil s hPhase hRest =>
      rw [run_nil hPhase hRest, hRest]
      exact ⟨rfl, .nil, rfl⟩
  | dot s hPhase rest hRest ih =>
      rcases ih hMode with ⟨hFault, hTiling, hCount⟩
      rw [run_dot hPhase hRest, hRest]
      exact ⟨hFault, .dot hTiling, hCount⟩
  | name s hPhase name rest hName hRest ih =>
      rcases ih hMode with ⟨hFault, hTiling, hCount⟩
      rw [run_of_yieldStep hPhase (advance_name hName hRest),
        hRest]
      rw [hMode] at hName
      have hInside : ∀ c ∈ name, c ≠ '.' ∧ c ≠ '[' := by
        intro c hMember
        have hNot := hName.inside c hMember
        rw [← Bool.not_eq_true, endsName_loose, not_or] at hNot
        exact hNot
      have hStop : ∀ c ∈ rest.head?, c = '.' ∨ c = '[' := by
        intro c hHead
        exact (endsName_loose c).mp (hName.stop c hHead)
      have hFirst : name.head? ≠ some '[' := by
        intro hHead
        have hMember := List.mem_of_mem_head? hHead
        exact (hInside '[' hMember).2 rfl
      refine ⟨hFault, ?_, ?_⟩
      · exact .step (.name hName.nonempty hInside hStop) hTiling
      · rw [List.length_append, List.length_map,
          length_closingOffsets, hCount]
        simp [warnings, Run.cons, Step.warnings, hFirst]
  | group s hPhase body hRest ih =>
      rcases ih hMode with ⟨hFault, hTiling, hCount⟩
      cases hContent : (readGroup body).content with
      | ok key =>
          rcases readGroup_sound hContent with
            ⟨lexeme, hWell, hStep, hChars, hRaw⟩
          rw [run_of_yieldStep hPhase
            (advance_key hRest hContent), hRest, hChars]
          rw [behindGroup, hRaw] at hTiling
          refine ⟨hFault, ?_, ?_⟩
          · rw [behindGroup, hRaw]
            exact .step (.group hWell hStep) hTiling
          · rw [List.nil_append, hCount]
            simp [warnings, Run.cons, Step.warnings]
      | error fault =>
          -- The group becomes a name; no lexeme of the grammar
          -- stands where it does.
          rcases readGroup_taken hContent with ⟨hWhole, hRuns⟩
          rw [run_of_yieldStep hPhase
            (advance_refused_loose hMode hRest hContent), hRest]
          refine ⟨hFault, ?_, ?_⟩
          · rw [hWhole]
            refine .step (.demoted hRuns ?_) hTiling
            intro lexeme later hWell
            rw [← hWhole]
            exact readGroup_malformed hContent hWell
          · rw [List.length_append, hCount]
            simp [warnings, Run.cons, Step.warnings,
              hRuns.head?_eq]
  | closing s hPhase rest hStrict hRest =>
      -- Only strict reading stops at a closing bracket.
      rw [hMode] at hStrict
      cases hStrict

/- A loose run over a row of lexemes is a strict one. -/
theorem loose_run_of_strict
    {source : String}
    (hFault :
      (ofText .strict source).run.value.fault = none) :
    (ofText .loose source).run.value.steps =
        (ofText .strict source).run.value.steps ∧
      (ofText .loose source).run.log = [] := by
  rcases row_of_ofText_run hFault with ⟨hText, lexemes, hRow⟩
  rw [ofText_run .loose hText, ofText_run .strict hText]
  rcases run_row (s := running .loose source) rfl hRow with
    ⟨_, hLoose, hSilent⟩
  rcases run_row (s := running .strict source) rfl hRow with
    ⟨_, hStrict, _⟩
  exact ⟨hLoose.trans hStrict.symm, hSilent⟩

/-
  Loose reading takes every text that is not empty.  Its steps
  tile the text, so that nothing but dots is lost.  It yields
  what strict reading does, in silence, where that has no
  fault, and it warns where strict reading has one: once for
  each demoted group and for each closing bracket in a name.
-/
theorem loose_run_tiles
    (source : String)
    (hText : source ≠ "") :
    (ofText .loose source).run.value.fault = none ∧
      Tiling 0 (ofText .loose source).run.value.steps
        source.toList ∧
      ((ofText .strict source).run.value.fault = none →
        (ofText .loose source).run.value.steps =
            (ofText .strict source).run.value.steps ∧
          (ofText .loose source).run.log = []) ∧
      ((ofText .strict source).run.value.fault ≠ none →
        (ofText .loose source).run.log ≠ []) ∧
      (ofText .loose source).run.log.length =
        warnings (ofText .loose source).run.value.steps := by
  have hRun := ofText_run .loose hText
  rcases tiling_run (s := running .loose source) rfl rfl with
    ⟨hFault, hTiling, hCount⟩
  rw [← hRun] at hFault hTiling hCount
  refine ⟨hFault, hTiling, loose_run_of_strict, ?_, hCount⟩
  intro hRefused hSilent
  -- A tiling in silence is a row, which strict reading takes.
  apply hRefused
  have hNone :
      warnings (ofText .loose source).run.value.steps = 0 := by
    rw [← hCount, hSilent]
    rfl
  rcases hTiling.exists_row (silent_of_warnings hNone) with
    ⟨lexemes, hRow⟩
  exact (ofText_run_row hText hRow).1

/- Two stray brackets and two demoted groups give four warnings. -/
theorem loose_run_tiles_malformed :
    let source := "é]].[x]['k'][7"
    let steps : List LocatedStep :=
      [⟨.named "é]]", some 0⟩, ⟨.named "[x]", some 5⟩,
        ⟨.keyed (.name "k"), some 8⟩, ⟨.named "[7", some 13⟩]
    source ≠ "" ∧
      (ofText .loose source).run.value.steps = steps ∧
        Tiling 0 steps source.toList ∧
          (ofText .loose source).run.log.length = 4 := by
  intro source steps
  have hText : source ≠ "" := by decide
  have hSteps :
      (ofText .loose source).run.value.steps = steps := by
    decide +kernel
  rcases loose_run_tiles source hText with
    ⟨_, hTiling, _, _, hCount⟩
  rw [hSteps] at hTiling hCount
  exact ⟨hText, hSteps, hTiling, hCount⟩

end Scanner

end TreePath
