import TreePath.Proofs.Grammar.Adequacy

/-
  Texts that are cut in front of one of their steps.  What is
  left is read, in either reading of brackets, as the steps
  before that one: no group or name ends elsewhere because
  what is behind it is gone.

  Key definitions include:
    * `Scanner.cut`
    * `Scanner.HasCut`

  Main statements:
    * `Grammar.readGroup_cut`
    * `Scanner.exists_hasCut`
    * `Plan.exists_front_of_step`
-/

------------------------------------------------------------
-- Groups in Shorter Texts
------------------------------------------------------------

namespace TreePath

namespace Grammar

variable {body front later : List Char}

/- A key of the grammar is read as itself before any text. -/
theorem exists_readGroup_of_lexeme
    {lexeme : Lexeme}
    {key : Key}
    (hWell : lexeme.WellFormed)
    (hStep : lexeme.step? = some (.keyed key))
    (rest : List Char) :
    ∃ inner,
      '[' :: inner = lexeme.chars ++ rest ∧
        readGroup inner = ⟨lexeme.chars, .ok key, rest⟩ := by
  cases lexeme with
  | dot => simp [Lexeme.step?] at hStep
  | name text => simp [Lexeme.step?] at hStep
  | position digits =>
      simp only [Lexeme.step?, Option.some.injEq,
        Step.keyed.injEq] at hStep
      subst hStep
      refine ⟨_, ?_, readGroup_position hWell rest⟩
      simp [Lexeme.chars]
  | quoted quote text =>
      simp only [Lexeme.step?, Option.some.injEq,
        Step.keyed.injEq] at hStep
      subst hStep
      refine ⟨_, ?_, readGroup_quoted hWell rest⟩
      simp [Lexeme.chars]

/-
  A closed group that is refused is refused before any part of
  what follows it: had it become a key, that key would stand
  in the whole text as well.
-/
theorem readGroup_refused_cut
    {inside : List Char}
    {fault : Fault}
    (hOpen : ']' ∉ inside)
    (hFault :
      (readGroup (inside ++ ']' :: (front ++ later))).content =
        .error fault) :
    readGroup (inside ++ ']' :: front) =
      ⟨'[' :: (inside ++ [']']), .error fault, front⟩ := by
  have hPosition : position inside = .error fault := by
    rw [readGroup_eq_unquoted hFault, unquoted_closed hOpen]
      at hFault
    exact hFault
  cases hContent :
      (readGroup (inside ++ ']' :: front)).content with
  | ok key =>
      exfalso
      rcases readGroup_sound hContent with
        ⟨lexeme, hWell, _, hText, _⟩
      have hWhole :
          '[' :: (inside ++ ']' :: (front ++ later)) =
            lexeme.chars ++
              ((readGroup (inside ++ ']' :: front)).rest ++
                later) := by
        rw [← List.append_assoc lexeme.chars, ← hText]
        simp
      exact readGroup_malformed hFault hWell hWhole
  | error other =>
      rw [readGroup_eq_unquoted hContent,
        unquoted_closed hOpen, hPosition]

/- A group and what is left behind it make up the text. -/
theorem readGroup_whole
    (body : List Char) :
    '[' :: body =
      (readGroup body).raw ++ (readGroup body).rest := by
  cases hContent : (readGroup body).content with
  | ok key =>
      rcases readGroup_sound hContent with
        ⟨lexeme, _, _, hText, hRaw⟩
      rw [hRaw]
      exact hText
  | error fault => exact (readGroup_taken hContent).1

/- A group is read the same if the text behind it ends early. -/
theorem readGroup_cut
    (hRest : (readGroup body).rest = front ++ later) :
    ∃ inner,
      '[' :: inner = (readGroup body).raw ++ front ∧
        readGroup inner =
          ⟨(readGroup body).raw, (readGroup body).content,
            front⟩ := by
  cases hContent : (readGroup body).content with
  | ok key =>
      rcases readGroup_sound hContent with
        ⟨lexeme, hWell, hStep, _, hRaw⟩
      rw [hRaw]
      exact exists_readGroup_of_lexeme hWell hStep front
  | error fault =>
      rcases readGroup_taken hContent with ⟨hText, hRuns⟩
      rcases hRuns with ⟨inside, hOpen, hRaw | ⟨_, hEnd⟩⟩
      · rw [hRaw, hRest] at hText
        have hBody :
            body = inside ++ ']' :: (front ++ later) := by
          simpa using hText
        rw [hBody] at hContent
        refine ⟨inside ++ ']' :: front, ?_, ?_⟩
        · rw [hRaw]
          simp
        · rw [readGroup_refused_cut hOpen hContent, hRaw]
      · -- The group takes all there is, so nothing is cut off.
        rw [hEnd] at hRest
        rcases List.append_eq_nil_iff.mp hRest.symm with
          ⟨rfl, _⟩
        refine ⟨body, ?_, ?_⟩
        · rw [← hEnd]
          exact hText
        · rw [← hContent, ← hEnd]

end Grammar

------------------------------------------------------------
-- Runs over Shorter Texts
------------------------------------------------------------

namespace Scanner

open Grammar

variable {s after : Scanner} {front : List Char} {count : Nat}

/- A scanner in front of the beginning of its text only. -/
def cut
    (source : String)
    (front : List Char)
    (s : Scanner) : Scanner :=
  { s with source := source, rest := front }

/-
  A beginning of the text is read without a fault, as the
  first of the steps, whatever text it is taken for.
-/
structure HasCut
    (s : Scanner)
    (count : Nat)
    (front : List Char) : Prop where
  fits : front <+: s.rest
  fault :
    ∀ source, (s.cut source front).run.value.fault = none
  steps :
    ∀ source,
      (s.cut source front).run.value.steps =
        s.run.value.steps.take count

/- Before the first step there is nothing to read. -/
theorem hasCut_zero
    (hPhase : s.phase = .running) :
    s.HasCut 0 [] := by
  have hRun (source : String) :=
    run_nil (s := s.cut source []) hPhase rfl
  refine ⟨List.nil_prefix, ?_, ?_⟩
  · intro source
    rw [hRun]
  · intro source
    rw [hRun]
    rfl

/- Before any other step there is something to read. -/
theorem HasCut.count_eq_zero
    {step : LocatedStep}
    (hCut : s.HasCut count [])
    (hPhase : s.phase = .running)
    (hStep : s.run.value.steps[count]? = some step) :
    count = 0 := by
  have hNone := hCut.steps s.source
  rw [run_nil (s := s.cut s.source []) hPhase rfl] at hNone
  have hLt := (List.getElem?_eq_some_iff.mp hStep).1
  rcases List.take_eq_nil_iff.mp hNone.symm with hZero | hNil
  · exact hZero
  · rw [hNil] at hLt
    cases hLt

/- A dot in front belongs to the beginning. -/
theorem HasCut.of_dot
    {rest : List Char}
    (hPhase : s.phase = .running)
    (hRest : s.rest = '.' :: rest)
    (hLater :
      (s.moveTo (s.offset + 1) rest).HasCut count front) :
    s.HasCut count ('.' :: front) := by
  have hRun := run_dot hPhase hRest
  have hCut (source : String) :=
    run_dot (s := s.cut source ('.' :: front)) hPhase rfl
  refine ⟨?_, ?_, ?_⟩
  · rw [hRest, List.prefix_cons_inj]
    exact hLater.fits
  · intro source
    rw [hCut]
    exact hLater.fault source
  · intro source
    rw [hCut, hRun]
    exact hLater.steps source

/- So does the text of a step that is yielded in front. -/
theorem HasCut.of_yieldStep
    {taken : List Char}
    {step : Step}
    {offset : Nat}
    {warnings : List Warning}
    (hPhase : s.phase = .running)
    (hAdvance :
      s.advance = after.yieldStep step offset warnings)
    (hRest : s.rest = taken ++ after.rest)
    (hCut :
      ∀ source, ∃ others,
        (s.cut source (taken ++ front)).advance =
          (after.cut source front).yieldStep step offset others)
    (hLater : after.HasCut count front) :
    s.HasCut (count + 1) (taken ++ front) := by
  have hRun := run_of_yieldStep hPhase hAdvance
  refine ⟨?_, ?_, ?_⟩
  · rw [hRest, List.prefix_append_right_inj]
    exact hLater.fits
  · intro source
    rcases hCut source with ⟨others, hCutAdvance⟩
    rw [run_of_yieldStep
      (s := s.cut source (taken ++ front)) hPhase hCutAdvance]
    exact hLater.fault source
  · intro source
    rcases hCut source with ⟨others, hCutAdvance⟩
    rw [run_of_yieldStep
      (s := s.cut source (taken ++ front)) hPhase hCutAdvance,
      hRun]
    simp only [Run.cons, List.take_succ_cons]
    rw [hLater.steps source]

/- A name ends where it did if what follows is cut short. -/
theorem advance_name_cut
    {name rest : List Char}
    (hName : IsName s.mode name rest)
    (hFront : front <+: rest)
    (source : String) :
    (s.cut source (name ++ front)).advance =
      ((s.moveTo (s.offset + Utf8.size name) rest).cut
        source front).yieldStep
        (.named (String.ofList name)) s.offset
        ((closingOffsets s.offset name).map
          (fun o => .strayBracket o source)) := by
  have hStop : ∀ c ∈ front.head?, endsName s.mode c = true := by
    intro c hHead
    apply hName.stop
    rcases hFront with ⟨later, rfl⟩
    rw [Option.mem_def] at hHead ⊢
    rw [List.head?_append, hHead, Option.some_or]
  have hNameCut : IsName s.mode name front :=
    ⟨hName.nonempty, hName.inside, hStop⟩
  exact
    advance_name (s := s.cut source (name ++ front)) hNameCut
      rfl

/- Behind a group that is read the same nothing differs. -/
theorem behindGroup_cut
    {body inner : List Char}
    (hRead :
      readGroup inner =
        ⟨(readGroup body).raw, (readGroup body).content, front⟩)
    (source : String)
    (text : List Char)
    (s : Scanner) :
    (s.cut source text).behindGroup inner =
      (s.behindGroup body).cut source front := by
  simp only [behindGroup, cut, moveTo, hRead]

/-
  A group that is yielded as a step is yielded as that step if
  what follows it is cut short.
-/
theorem advance_group_cut
    {body : List Char}
    (hPhase : s.phase = .running)
    (hRest : s.rest = '[' :: body)
    (hSteps : s.run.value.steps ≠ []) :
    ∃ step warnings,
      s.advance =
          (s.behindGroup body).yieldStep step s.offset
            warnings ∧
        ∀ source front, front <+: (readGroup body).rest →
          ∃ others,
            (s.cut source
              ((readGroup body).raw ++ front)).advance =
              ((s.behindGroup body).cut source front).yieldStep
                step s.offset others := by
  cases hContent : (readGroup body).content with
  | ok key =>
      refine ⟨_, _, advance_key hRest hContent, ?_⟩
      rintro source front ⟨later, hFront⟩
      rcases readGroup_cut hFront.symm with
        ⟨inner, hText, hRead⟩
      have hKey : (readGroup inner).content = .ok key := by
        rw [hRead, hContent]
      rw [← behindGroup_cut hRead source]
      exact ⟨_, advance_key hText.symm hKey⟩
  | error fault =>
      cases hMode : s.mode with
      | strict =>
          rw [run_of_yieldFault hPhase
            (advance_refused_strict hMode hRest hContent)]
            at hSteps
          exact absurd rfl hSteps
      | loose =>
          refine
            ⟨_, _, advance_refused_loose hMode hRest hContent,
              ?_⟩
          rintro source front ⟨later, hFront⟩
          rcases readGroup_cut hFront.symm with
            ⟨inner, hText, hRead⟩
          have hFault :
              (readGroup inner).content = .error fault := by
            rw [hRead, hContent]
          have hRaw :
              (readGroup inner).raw = (readGroup body).raw := by
            rw [hRead]
          rw [← behindGroup_cut hRead source, ← hRaw]
          refine ⟨_, advance_refused_loose hMode ?_ hFault⟩
          rw [hRaw]
          exact hText.symm

/-
  In front of each of its steps the text can be cut, at the
  offset of the step.
-/
theorem exists_hasCut
    {step : LocatedStep}
    (hPhase : s.phase = .running)
    (hStep : s.run.value.steps[count]? = some step) :
    ∃ front,
      s.HasCut count front ∧
        step.offset = some (s.offset + Utf8.size front) := by
  induction s, hPhase using running_induction
    generalizing count with
  | nil s hPhase hRest =>
      rw [run_nil hPhase hRest] at hStep
      cases hStep
  | dot s hPhase rest hRest ih =>
      rw [run_dot hPhase hRest] at hStep
      rcases ih hStep with ⟨front, hCut, hOffset⟩
      refine ⟨'.' :: front, hCut.of_dot hPhase hRest, ?_⟩
      rw [hOffset, Utf8.size_cons, ← Nat.add_assoc]
      rfl
  | name s hPhase name rest hName hRest ih =>
      have hAdvance := advance_name hName hRest
      rw [run_of_yieldStep hPhase hAdvance] at hStep
      cases count with
      | zero =>
          rcases Option.some.inj hStep with rfl
          exact ⟨[], hasCut_zero hPhase, rfl⟩
      | succ count =>
          rcases ih hStep with ⟨front, hCut, hOffset⟩
          refine ⟨name ++ front, ?_, ?_⟩
          · refine
              .of_yieldStep hPhase hAdvance hRest ?_ hCut
            intro source
            exact ⟨_, advance_name_cut hName hCut.fits source⟩
          · rw [hOffset, Utf8.size_append, ← Nat.add_assoc]
            rfl
  | group s hPhase body hRest ih =>
      have hSteps : s.run.value.steps ≠ [] := by
        intro hNil
        rw [hNil] at hStep
        cases hStep
      rcases advance_group_cut hPhase hRest hSteps with
        ⟨first, warnings, hAdvance, hCutAdvance⟩
      rw [run_of_yieldStep hPhase hAdvance] at hStep
      cases count with
      | zero =>
          rcases Option.some.inj hStep with rfl
          exact ⟨[], hasCut_zero hPhase, rfl⟩
      | succ count =>
          rcases ih hStep with ⟨front, hCut, hOffset⟩
          refine ⟨(readGroup body).raw ++ front, ?_, ?_⟩
          · refine .of_yieldStep hPhase hAdvance ?_ ?_ hCut
            · rw [hRest]
              exact readGroup_whole body
            · intro source
              exact hCutAdvance source front hCut.fits
          · rw [hOffset, Utf8.size_append, ← Nat.add_assoc]
            rfl
  | closing s hPhase rest hMode hRest =>
      rw [run_of_yieldFault hPhase
        (advance_closing hMode hRest)] at hStep
      cases hStep

end Scanner

------------------------------------------------------------
-- Plans of Shorter Texts
------------------------------------------------------------

namespace Plan

variable {mode : BracketMode} {source : String} {plan : Plan}

/- A text is read as the plan of its steps, without a fault. -/
theorem parse_eq_ok_iff :
    (parse mode source).value = .ok plan ↔
      (Scanner.ofText mode source).run.value.fault = none ∧
        (Scanner.ofText mode source).run.value.steps =
          plan.steps := by
  unfold parse
  dsimp only
  cases (Scanner.ofText mode source).run.value.fault with
  | some e => simp
  | none => cases plan; simp

/-
  In front of each of its steps, a text can be cut at the
  offset of the step.  If anything stands there, it is read
  as the plan of the steps before, each at its offset.
-/
theorem exists_front_of_step
    {depth : Nat}
    {step : LocatedStep}
    (hRead : (parse mode source).value = .ok plan)
    (hStep : plan.steps[depth]? = some step) :
    ∃ front later,
      source = front ++ later ∧
        step.offset = some (Utf8.size front.toList) ∧
          (front = "" → depth = 0) ∧
            (front ≠ "" →
              (parse mode front).value =
                .ok ⟨plan.steps.take depth⟩) := by
  rw [parse_eq_ok_iff] at hRead
  rcases hRead with ⟨hFault, hSteps⟩
  have hText : source ≠ "" := by
    rintro rfl
    rw [Scanner.ofText_run_empty] at hFault
    cases hFault
  have hRun := Scanner.ofText_run mode hText
  rw [← hSteps, hRun] at hStep
  rcases
      Scanner.exists_hasCut (s := Scanner.running mode source)
        rfl hStep with
    ⟨front, hCut, hOffset⟩
  rcases hCut.fits with ⟨later, hWhole⟩
  refine
    ⟨String.ofList front, String.ofList later, ?_, ?_, ?_, ?_⟩
  · rw [← String.ofList_append, hWhole]
    exact String.ofList_toList.symm
  · rw [hOffset, String.toList_ofList]
    exact congrArg some (Nat.zero_add _)
  · intro hEmpty
    have hNil : front = [] := by
      simpa using congrArg String.toList hEmpty
    rw [hNil] at hCut
    exact hCut.count_eq_zero rfl hStep
  · intro hFront
    -- The scanner of the shorter text is the one that is cut.
    have hScanner :
        (Scanner.running mode source).cut
            (String.ofList front) front =
          Scanner.running mode (String.ofList front) := by
      simp [Scanner.cut, Scanner.running, Scanner.moveTo,
        Scanner.ofText]
    rw [parse_eq_ok_iff, Scanner.ofText_run mode hFront,
      ← hScanner]
    refine ⟨hCut.fault _, ?_⟩
    rw [hCut.steps, ← hSteps, hRun]

end Plan

end TreePath
