import TreePath.Proofs.Path.RoundTrip

/-
  Writing as a normal form of texts.  Whatever strict reading
  takes is written as a text that is read as the same steps
  and written as itself, unless it is made of dots alone: then
  there is nothing to write, and nothing is not read.

  Main statements:
    * `Lexeme.Row.filterMap_step?_eq_nil_iff`
    * `Plan.ofText?_of_steps_nil`
    * `Plan.render_normal`
    * `Plan.exists_read_without_render`
-/

------------------------------------------------------------
-- Texts Without Steps
------------------------------------------------------------

namespace TreePath

namespace Lexeme

variable {lexeme : Lexeme} {lexemes : List Lexeme}
variable {source : List Char}

/- Only a dot stands for no step. -/
theorem step?_eq_none_iff
    (hWell : lexeme.WellFormed) :
    lexeme.step? = none ↔ ∀ c ∈ lexeme.chars, c = '.' := by
  cases lexeme with
  | dot => simp [step?, chars]
  | name text =>
      rcases List.exists_cons_of_ne_nil hWell.1 with
        ⟨c, tail, rfl⟩
      have hPlain : Plain c := hWell.2 c (by simp)
      simp [step?, chars, hPlain.1]
  | position digits => simp [step?, chars]
  | quoted quote text => simp [step?, chars]

/- A row has no steps exactly if its text is dots alone. -/
theorem Row.filterMap_step?_eq_nil_iff
    (hRow : Row lexemes source) :
    lexemes.filterMap step? = [] ↔ ∀ c ∈ source, c = '.' := by
  induction hRow with
  | nil => simp
  | cons hWell _ _ ih =>
      rw [List.forall_mem_append, ← ih, ← step?_eq_none_iff hWell]
      simp only [List.filterMap_eq_nil_iff, List.forall_mem_cons]

end Lexeme

------------------------------------------------------------
-- Normal Forms
------------------------------------------------------------

namespace Plan

variable {source : String} {plan : Plan}

/- Texts of dots alone are read as plans without steps. -/
theorem steps_eq_nil_iff_dots
    (hRead : ofText? source = .ok plan) :
    plan.steps = [] ↔ ∀ c ∈ source.toList, c = '.' := by
  rcases ofText?_eq_ok_iff.mp hRead with
    ⟨_, lexemes, hRow, hSteps⟩
  rw [← hRow.filterMap_step?_eq_nil_iff, ← path_of_row hSteps,
    path, List.map_eq_nil_iff]

/- What a plan without steps is written as cannot be read. -/
theorem ofText?_of_steps_nil
    (hSteps : plan.steps = []) :
    ofText? plan.render = .error ⟨0, "", .empty⟩ := by
  have hFault := Scanner.ofText_run_empty .strict
  rw [render_of_steps_nil hSteps]
  simp only [ofText?, parse, hFault]

/-
  A text that is read and is not made of dots alone is written
  as a text that is read as the same steps and written as
  itself.  Texts of dots alone are read as no steps, and the
  empty text that they are written as is refused.
-/
theorem render_normal
    (hRead : ofText? source = .ok plan) :
    ((∃ c ∈ source.toList, c ≠ '.') →
        ∃ again,
          ofText? plan.render = .ok again ∧
            again.path = plan.path ∧
              again.render = plan.render) ∧
      ((∀ c ∈ source.toList, c = '.') →
        plan.steps = [] ∧
          ofText? plan.render = .error ⟨0, "", .empty⟩) := by
  refine ⟨?_, ?_⟩
  · rintro ⟨c, hMember, hNot⟩
    have hNonempty : plan.steps ≠ [] := by
      intro hEmpty
      exact hNot
        ((steps_eq_nil_iff_dots hRead).mp hEmpty c hMember)
    rcases exists_read_render hNonempty
        (writable_of_read hRead) with
      ⟨again, hAgain, hPath⟩
    refine ⟨again, hAgain, hPath, ?_⟩
    rw [render, hPath, render]
  · intro hDots
    have hEmpty := (steps_eq_nil_iff_dots hRead).mpr hDots
    exact ⟨hEmpty, ofText?_of_steps_nil hEmpty⟩

/- Dots, leading zeros and needless quotes are not written. -/
theorem render_normal_quoted :
    let source := "..a[007][\"b\"].[\"x']y\"]."
    let plan : Plan :=
      ⟨[⟨.named "a", some 2⟩, ⟨.keyed (.index 7), some 3⟩,
        ⟨.keyed (.name "b"), some 8⟩,
        ⟨.keyed (.name "x']y"), some 14⟩]⟩
    ofText? source = .ok plan ∧
      plan.render = "a[7]['b'][\"x']y\"]" ∧
        ∃ again,
          ofText? plan.render = .ok again ∧
            again.path = plan.path ∧
              again.render = plan.render := by
  intro source plan
  have hRead : ofText? source = .ok plan := by decide +kernel
  have hOther : ∃ c ∈ source.toList, c ≠ '.' :=
    ⟨'a', by decide, by decide⟩
  rcases render_normal hRead with ⟨hAgain, _⟩
  exact ⟨hRead, by decide +kernel, hAgain hOther⟩

/- A single dot is read, and what is written of it is not. -/
theorem exists_read_without_render :
    ¬ ∀ (source : String) (plan : Plan),
        ofText? source = .ok plan →
          ∃ again,
            ofText? plan.render = .ok again ∧
              again.path = plan.path ∧
                again.render = plan.render := by
  intro hNormal
  have hRead : ofText? "." = .ok empty := by decide +kernel
  rcases hNormal "." empty hRead with ⟨again, hAgain, _⟩
  have hRefused :
      ofText? empty.render = .error ⟨0, "", .empty⟩ :=
    ofText?_of_steps_nil rfl
  rw [hRefused] at hAgain
  cases hAgain

end Plan

end TreePath
