import TreePath.Proofs.Grammar.Adequacy

/-
  Which plans can be written and read back: those whose names
  the grammar can spell.

  Key definitions include:
    * `Step.Writable`
    * `Step.lexemes`

  Main statements:
    * `Lexeme.writable_of_step?`
    * `Step.row_lexemes`
    * `Plan.ofText?_render_iff`
-/

------------------------------------------------------------
-- Writable Steps
------------------------------------------------------------

namespace TreePath

/-
  A step is writable if its name is not empty and holds no
  mark of the grammar.  A keyed name may hold anything that
  leaves one of the two quotes free.
-/
def Step.Writable : Step → Prop
| .named name => name ≠ "" ∧ ∀ c ∈ name.toList, Plain c
| .keyed (.index _) => True
| .keyed (.name text) =>
    text ≠ "" ∧
      ¬ (Closes '\'' text.toList ∧ Closes '"' text.toList)

namespace Lexeme

/- Only writable steps are ever read. -/
theorem writable_of_step?
    {lexeme : Lexeme}
    {step : Step}
    (hWell : lexeme.WellFormed)
    (hStep : lexeme.step? = some step) :
    step.Writable := by
  cases lexeme with
  | dot => simp [step?] at hStep
  | name text =>
      simp only [step?, Option.some.injEq] at hStep
      subst hStep
      rcases hWell with ⟨hNonempty, hPlain⟩
      refine ⟨?_, ?_⟩
      · simpa [← String.toList_inj] using hNonempty
      · simpa using hPlain
  | position digits =>
      simp only [step?, Option.some.injEq] at hStep
      subst hStep
      trivial
  | quoted quote text =>
      simp only [step?, Option.some.injEq] at hStep
      subst hStep
      rcases hWell with ⟨hQuote, hNonempty, hOpen⟩
      refine ⟨?_, ?_⟩
      · simpa [← String.toList_inj] using hNonempty
      · rw [String.toList_ofList]
        rintro ⟨hSingle, hDouble⟩
        rcases hQuote with rfl | rfl
        · exact hOpen hSingle
        · exact hOpen hDouble

/- Without their places, the steps of a row are its steps. -/
theorem map_step_located
    (start : Nat)
    (lexemes : List Lexeme) :
    (located start lexemes).map LocatedStep.step =
      lexemes.filterMap step? := by
  induction lexemes generalizing start with
  | nil => rfl
  | cons lexeme lexemes ih =>
      cases hStep : lexeme.step? with
      | none => simp [located, hStep, ih]
      | some step => simp [located, hStep, ih]

end Lexeme

------------------------------------------------------------
-- Rows of Written Steps
------------------------------------------------------------

namespace Step

/- The lexeme of a key as it is written. -/
def keyLexeme : Key → Lexeme
| .index i => .position (Nat.toDigits 10 i.toNat)
| .name text =>
    .quoted (Key.quote text.toList) text.toList

/- The lexemes of a step that stands behind another. -/
def lexemes : Step → List Lexeme
| .named name => [.dot, .name name.toList]
| .keyed key => [keyLexeme key]

variable {step : Step} {steps : List Step} {key : Key}

/- A key is written as its lexeme. -/
theorem chars_keyLexeme
    (key : Key) :
    (keyLexeme key).chars = key.chars := by
  cases key with
  | index i => rfl
  | name text => rfl

/-
  The lexeme of a writable key is well formed.  The double
  quote is only taken where the single quote closes, and then
  the double quote does not.
-/
theorem keyLexeme_wellFormed
    (hWritable : (Step.keyed key).Writable) :
    (keyLexeme key).WellFormed := by
  cases key with
  | index i =>
      refine ⟨Nat.toDigits_ne_nil, ?_, ?_⟩
      · intro c hMember
        exact Nat.isDigit_of_mem_toDigits (by decide)
          (by decide) hMember
      · rw [Nat.ofDigitChars_ten_toDigits]
        exact i.toNat_lt
  | name text =>
      rcases hWritable with ⟨hNonempty, hFree⟩
      have hText : text.toList ≠ [] := by
        simpa using hNonempty
      by_cases hSingle : Closes '\'' text.toList
      · have hQuote : Key.quote text.toList = '"' := by
          simp [Key.quote, (Key.closes_iff _ _).mpr hSingle]
        rw [keyLexeme, hQuote]
        refine ⟨Or.inr rfl, hText, ?_⟩
        intro hDouble
        exact hFree ⟨hSingle, hDouble⟩
      · have hQuote : Key.quote text.toList = '\'' := by
          have hNot := mt (Key.closes_iff _ _).mp hSingle
          simp [Key.quote, hNot]
        rw [keyLexeme, hQuote]
        exact ⟨Or.inl rfl, hText, hSingle⟩

/- The lexeme of a key stands for the key. -/
theorem step?_keyLexeme
    (key : Key) :
    (keyLexeme key).step? = some (.keyed key) := by
  cases key with
  | index i =>
      simp only [keyLexeme, Lexeme.step?,
        Nat.ofDigitChars_ten_toDigits]
      simp
  | name text => simp [keyLexeme, Lexeme.step?]

/- No key is a name, so it may stand before anything. -/
theorem keyLexeme_endsBefore
    (key : Key)
    (rest : List Char) :
    (keyLexeme key).EndsBefore rest := by
  cases key with
  | index i => trivial
  | name text => trivial

/- A written step begins with a dot or a bracket. -/
theorem head?_chars
    (steps : List Step) :
    ∀ c ∈ (steps.flatMap chars).head?, ¬ Plain c := by
  intro c hHead
  cases steps with
  | nil => simp at hHead
  | cons step steps =>
      cases step with
      | named name =>
          have hDot : '.' = c := by
            simpa [chars] using hHead
          subst hDot
          decide
      | keyed key =>
          have hBracket : '[' = c := by
            cases key <;> simpa [chars, Key.chars] using hHead
          subst hBracket
          decide

/- A named step at the end of a row of steps. -/
theorem row_name
    {name : String}
    {later : List Lexeme}
    (hWritable : (Step.named name).Writable)
    (hLater : Lexeme.Row later (steps.flatMap chars)) :
    Lexeme.Row (.name name.toList :: later)
      (name.toList ++ steps.flatMap chars) := by
  rcases hWritable with ⟨hNonempty, hPlain⟩
  change
    Lexeme.Row (.name name.toList :: later)
      ((Lexeme.name name.toList).chars ++ steps.flatMap chars)
  apply Lexeme.Row.cons
  · exact ⟨by simpa using hNonempty, hPlain⟩
  · exact head?_chars steps
  · exact hLater

/- A keyed step in front of a row of steps. -/
theorem row_key
    {later : List Lexeme}
    (hWritable : (Step.keyed key).Writable)
    (hLater : Lexeme.Row later (steps.flatMap chars)) :
    Lexeme.Row (keyLexeme key :: later)
      (key.chars ++ steps.flatMap chars) := by
  rw [← chars_keyLexeme]
  apply Lexeme.Row.cons
  · exact keyLexeme_wellFormed hWritable
  · exact keyLexeme_endsBefore key _
  · exact hLater

/- Writable steps are written as the row of their lexemes. -/
theorem row_lexemes
    (hWritable : ∀ step ∈ steps, step.Writable) :
    Lexeme.Row (steps.flatMap lexemes)
      (steps.flatMap chars) := by
  induction steps with
  | nil => exact Lexeme.Row.nil
  | cons step steps ih =>
      rw [List.forall_mem_cons] at hWritable
      rcases hWritable with ⟨hStep, hSteps⟩
      have hLater := ih hSteps
      cases step with
      | named name =>
          have hName := row_name hStep hLater
          exact hName.dot
      | keyed key => exact row_key hStep hLater

/- The steps of the lexemes of steps are those steps. -/
theorem filterMap_lexemes
    (steps : List Step) :
    (steps.flatMap lexemes).filterMap Lexeme.step? =
      steps := by
  induction steps with
  | nil => rfl
  | cons step steps ih =>
      rw [List.flatMap_cons, List.filterMap_append, ih]
      cases step with
      | named name =>
          simp [lexemes, List.filterMap_cons, Lexeme.step?]
      | keyed key => simp [lexemes, step?_keyLexeme]

end Step

------------------------------------------------------------
-- Written Plans
------------------------------------------------------------

namespace Plan

/-
  A path of writable steps is written as a row with the same
  steps.  Only a name in front has no dot.
-/
theorem exists_row_charsOf
    {steps : List Step}
    (hWritable : ∀ step ∈ steps, step.Writable) :
    ∃ lexemes,
      Lexeme.Row lexemes (charsOf steps) ∧
        lexemes.filterMap Lexeme.step? = steps := by
  cases steps with
  | nil => exact ⟨[], Lexeme.Row.nil, rfl⟩
  | cons step steps =>
      rw [List.forall_mem_cons] at hWritable
      rcases hWritable with ⟨hStep, hSteps⟩
      have hLater := Step.row_lexemes hSteps
      have hSame := Step.filterMap_lexemes steps
      cases step with
      | named name =>
          refine ⟨_, Step.row_name hStep hLater, ?_⟩
          simp [Lexeme.step?, hSame]
      | keyed key =>
          refine ⟨_, Step.row_key hStep hLater, ?_⟩
          simp [Step.step?_keyLexeme, hSame]

/- The path that is read from a row. -/
theorem path_of_row
    {plan : Plan}
    {lexemes : List Lexeme}
    (hSteps : plan.steps = Lexeme.located 0 lexemes) :
    plan.path = lexemes.filterMap Lexeme.step? := by
  rw [path, hSteps, Lexeme.map_step_located]

/- A path that is not empty is not written as nothing. -/
theorem charsOf_ne_nil
    {steps : List Step}
    (hNonempty : steps ≠ [])
    (hWritable : ∀ step ∈ steps, step.Writable) :
    charsOf steps ≠ [] := by
  rcases List.exists_cons_of_ne_nil hNonempty with
    ⟨step, later, rfl⟩
  have hStep := hWritable step (by simp)
  cases step with
  | named name =>
      have hName : name.toList ≠ [] := by
        simpa using hStep.1
      simp [charsOf, hName]
  | keyed key =>
      cases key <;> simp [charsOf, Step.chars, Key.chars]

/- Whatever is read has writable steps. -/
theorem writable_of_read
    {source : String}
    {plan : Plan}
    (hRead : ofText? source = .ok plan) :
    ∀ step ∈ plan.path, step.Writable := by
  rcases ofText?_eq_ok_iff.mp hRead with
    ⟨_, lexemes, hRow, hSteps⟩
  intro step hStep
  rw [path_of_row hSteps] at hStep
  rcases List.mem_filterMap.mp hStep with
    ⟨lexeme, hLexeme, hSame⟩
  exact Lexeme.writable_of_step?
    (hRow.wellFormed lexeme hLexeme) hSame

/- Writable steps are read back as they were written. -/
theorem exists_read_render
    {plan : Plan}
    (hNonempty : plan.steps ≠ [])
    (hWritable : ∀ step ∈ plan.path, step.Writable) :
    ∃ again,
      ofText? plan.render = .ok again ∧
        again.path = plan.path := by
  have hText : plan.render.toList = charsOf plan.path := by
    simp [render]
  rcases exists_row_charsOf hWritable with
    ⟨lexemes, hRow, hSame⟩
  refine ⟨⟨Lexeme.located 0 lexemes⟩, ?_, ?_⟩
  · apply ofText?_eq_ok_iff.mpr
    refine ⟨?_, lexemes, ?_, rfl⟩
    · intro hEmpty
      have hPath : plan.path ≠ [] := by
        simpa [path] using hNonempty
      apply charsOf_ne_nil hPath hWritable
      rw [← hText, hEmpty]
      rfl
    · rw [hText]
      exact hRow
  · rw [path_of_row rfl, hSame]

/- A plan without steps is written as nothing. -/
theorem render_of_steps_nil
    {plan : Plan}
    (hSteps : plan.steps = []) :
    plan.render = "" := by
  simp [render, path, hSteps, charsOf]

/-
  Writing a plan and reading it strictly gives the same steps
  exactly if there are steps and all of them are writable.
-/
theorem ofText?_render_iff
    (plan : Plan) :
    (∃ again,
        ofText? plan.render = .ok again ∧
          again.path = plan.path) ↔
      plan.steps ≠ [] ∧
        ∀ step ∈ plan.path, step.Writable := by
  constructor
  · rintro ⟨again, hRead, hPath⟩
    refine ⟨?_, ?_⟩
    · intro hEmpty
      apply (ofText?_eq_ok_iff.mp hRead).1
      exact render_of_steps_nil hEmpty
    · rw [← hPath]
      exact writable_of_read hRead
  · rintro ⟨hNonempty, hWritable⟩
    exact exists_read_render hNonempty hWritable

end Plan

end TreePath
