import TreePath.Proofs.Grammar.Adequacy

/-
  Where strict reading fails and why: at the first bracket
  that may not stand where it does.  The text in front of it
  is read with the same steps on its own.

  Main statements:
    * `Scanner.strict_fault_located`
-/

------------------------------------------------------------
-- Faults of Whole Texts
------------------------------------------------------------

namespace TreePath

namespace Grammar

/- No bracket makes a text empty. -/
theorem faultAt_ne_empty
    (bracket : Char)
    (later : List Char) :
    faultAt bracket later ≠ .empty := by
  unfold faultAt
  split
  · simp
  · split
    · simp
    · split <;> simp

end Grammar

namespace Scanner

open Grammar

/-
  A row in front of a text is read on its own, unless it has
  no characters.
-/
theorem ofText_run_front
    {lexemes : List Lexeme}
    {front : List Char}
    (hRow : Lexeme.Row lexemes front)
    (hNonempty : front ≠ []) :
    (ofText .strict (String.ofList front)).run.value.fault =
        none ∧
      (ofText .strict (String.ofList front)).run.value.steps =
        Lexeme.located 0 lexemes := by
  apply ofText_run_row
  · intro hEmpty
    apply hNonempty
    rw [← String.toList_ofList (l := front), hEmpty]
    rfl
  · rw [String.toList_ofList]
    exact hRow

/-
  The fault of a text that is not empty lies at a bracket.
  What stands before the bracket has no fault and the same
  steps at the same places; what stands behind it decides
  which fault it is.
-/
theorem strict_fault_located
    (source : String)
    (e : SyntaxError)
    (hFault :
      (ofText .strict source).run.value.fault = some e) :
    let run := (ofText .strict source).run.value
    (e.fault = .empty ↔ source = "") ∧
      (source ≠ "" →
        ∃ front bracket later,
          source.toList = front ++ bracket :: later ∧
            (bracket = '[' ∨ bracket = ']') ∧
              e =
                ⟨Utf8.size front, source,
                  faultAt bracket later⟩ ∧
                (front = [] → run.steps = []) ∧
                  (front ≠ [] →
                    let earlier :=
                      (ofText .strict
                        (String.ofList front)).run.value
                    earlier.fault = none ∧
                      earlier.steps = run.steps)) := by
  intro run
  by_cases hText : source = ""
  · subst hText
    rw [ofText_run_empty] at hFault
    have hSame : (⟨0, "", .empty⟩ : SyntaxError) = e :=
      Option.some.inj hFault
    subst hSame
    exact ⟨by simp, fun hNot => absurd rfl hNot⟩
  · have hRun : run = (running .strict source).run.value :=
      congrArg Logged.value (ofText_run .strict hText)
    rw [ofText_run .strict hText] at hFault
    rcases exists_hasRead (s := running .strict source)
        rfl rfl with
      ⟨lexemes, front, later, hRead⟩
    rcases hRead.stopped e hFault with
      ⟨bracket, tail, rfl, hBracket, hError⟩
    have hSteps : run.steps = Lexeme.located 0 lexemes := by
      rw [hRun]
      exact hRead.steps
    have hPlace :
        e =
          ⟨Utf8.size front, source, faultAt bracket tail⟩ := by
      rw [hError]
      simp [running, moveTo, ofText]
    refine ⟨?_, fun _ => ?_⟩
    · rw [hPlace]
      exact
        ⟨fun hEmpty =>
            absurd hEmpty (faultAt_ne_empty bracket tail),
          fun hEmpty => absurd hEmpty hText⟩
    · refine
        ⟨front, bracket, tail, hRead.whole, hBracket, hPlace,
          ?_, ?_⟩
      · intro hEmpty
        have hRow := hRead.row
        rw [hEmpty] at hRow
        have hNone : lexemes = [] :=
          Lexeme.row_unique hRow Lexeme.Row.nil
        rw [hSteps, hNone]
        rfl
      · intro hNonempty
        rcases ofText_run_front hRead.row hNonempty with
          ⟨hAccepted, hSame⟩
        exact ⟨hAccepted, hSame.trans hSteps.symm⟩

/- A leading zero does not save a position that is too large. -/
theorem strict_fault_located_overflow :
    let source := "é['x']b[018446744073709551616]"
    let e : SyntaxError := ⟨8, source, .indexOverflow⟩
    let run := (ofText .strict source).run.value
    run.fault = some e ∧
      ∃ front bracket later,
        source.toList = front ++ bracket :: later ∧
          e =
            ⟨Utf8.size front, source,
              faultAt bracket later⟩ ∧
            (ofText .strict
                (String.ofList front)).run.value.steps =
              run.steps := by
  intro source e run
  have hFault :
      (ofText .strict source).run.value.fault = some e := by
    decide +kernel
  have hText : source ≠ "" := by decide
  rcases strict_fault_located source e hFault with
    ⟨_, hLocated⟩
  rcases hLocated hText with
    ⟨front, bracket, later, hWhole, _, hPlace, _, hEarlier⟩
  refine ⟨hFault, front, bracket, later, hWhole, hPlace, ?_⟩
  apply (hEarlier ?_).2
  rintro rfl
  have hOffset : 8 = Utf8.size [] :=
    congrArg SyntaxError.offset hPlace
  cases hOffset

end Scanner

end TreePath
