import TreePath.Proofs.Grammar.Refusal
import TreePath.Proofs.Grammar.Unique

/-
  Reading against the grammar.  A row of lexemes is read
  without a fault, and its steps are yielded with their
  places.  Conversely, strict reading reads a row up to the
  end of the text, or up to a bracket that may not stand where
  it does.

  Key definitions include:
    * `Scanner.HasRead`

  Main statements:
    * `Scanner.run_row_append`
    * `Scanner.exists_hasRead`
    * `Plan.ofText?_eq_ok_iff`
    * `Scanner.strict_run_spells`
-/

------------------------------------------------------------
-- Rows Are Read
------------------------------------------------------------

namespace TreePath

namespace Lexeme

variable {lexeme : Lexeme} {lexemes : List Lexeme}
variable {source : List Char}

/- No row begins with a closing bracket. -/
theorem Row.head?_ne_closing
    (hRow : Row lexemes source) :
    ∀ c ∈ source.head?, c ≠ ']' := by
  cases hRow with
  | nil => simp
  | @cons lexeme lexemes rest hWell _ _ =>
      rintro c hHead rfl
      cases lexeme with
      | name text =>
          rcases List.exists_cons_of_ne_nil hWell.1 with
            ⟨c, tail, rfl⟩
          have hPlain : Plain c := hWell.2 c (by simp)
          simp only [chars, List.cons_append, List.head?_cons,
            Option.mem_some_iff] at hHead
          exact hPlain.2.2 hHead
      | dot => simp [chars] at hHead
      | position digits => simp [chars] at hHead
      | quoted quote text => simp [chars] at hHead

/- A lexeme that ends before a text ends before its front. -/
theorem endsBefore_of_append
    {front later : List Char}
    (hEnds : lexeme.EndsBefore (front ++ later)) :
    lexeme.EndsBefore front := by
  cases lexeme with
  | name text =>
      cases front with
      | nil => simp [EndsBefore]
      | cons c front => exact hEnds
  | dot => trivial
  | position digits => trivial
  | quoted quote text => trivial

/- A lexeme that ends before a text that is not empty ends
   before all that the text goes on with. -/
theorem endsBefore_append
    {c : Char}
    {front later : List Char}
    (hEnds : lexeme.EndsBefore (c :: front)) :
    lexeme.EndsBefore (c :: front ++ later) := by
  cases lexeme with
  | name text => exact hEnds
  | dot => trivial
  | position digits => trivial
  | quoted quote text => trivial

/- Every lexeme ends before a dot or an opening bracket. -/
theorem endsBefore_seam
    {later : List Char}
    (hSeam : ∀ c ∈ later.head?, c = '.' ∨ c = '[') :
    lexeme.EndsBefore later := by
  cases lexeme with
  | name text =>
      rintro c hHead ⟨hDot, hOpening, _⟩
      rcases hSeam c hHead with hSame | hSame
      · exact hDot hSame
      · exact hOpening hSame
  | dot => trivial
  | position digits => trivial
  | quoted quote text => trivial

end Lexeme

namespace Grammar

/-
  A name of the grammar is one in either reading, if what
  follows it does not close a bracket.
-/
theorem isName_of_wellFormed
    (mode : BracketMode)
    {text rest : List Char}
    (hWell : (Lexeme.name text).WellFormed)
    (hEnds : (Lexeme.name text).EndsBefore rest)
    (hHead : ∀ c ∈ rest.head?, c ≠ ']') :
    IsName mode text rest := by
  refine ⟨hWell.1, ?_, ?_⟩
  · intro c hMember
    rcases hWell.2 c hMember with ⟨hDot, hOpening, hClosing⟩
    simp [endsName, hDot, hOpening, hClosing]
  · intro c hMember
    have hNot : ¬ Plain c := hEnds c hMember
    have hClosing := hHead c hMember
    by_cases hDot : c = '.'
    · simp [endsName, hDot]
    by_cases hOpening : c = '['
    · simp [endsName, hOpening]
    · exact absurd ⟨hDot, hOpening, hClosing⟩ hNot

end Grammar

namespace Scanner

open Grammar

variable {s : Scanner} {rest : List Char}

/-
  Whatever lexeme stands in front is yielded in silence, with
  its step and its place; a dot is none of these.
-/
theorem advance_lexeme
    {lexeme : Lexeme}
    {step : Step}
    (hWell : lexeme.WellFormed)
    (hEnds : lexeme.EndsBefore rest)
    (hHead : ∀ c ∈ rest.head?, c ≠ ']')
    (hStep : lexeme.step? = some step)
    (hRest : s.rest = lexeme.chars ++ rest) :
    s.advance =
      (s.moveTo (s.offset + Utf8.size lexeme.chars)
        rest).yieldStep step s.offset [] := by
  cases lexeme with
  | dot => simp [Lexeme.step?] at hStep
  | name text =>
      simp only [Lexeme.step?, Option.some.injEq] at hStep
      subst hStep
      have hName :=
        isName_of_wellFormed s.mode hWell hEnds hHead
      have hSilent : closingOffsets s.offset text = [] := by
        apply closingOffsets_eq_nil
        intro hMember
        exact (hWell.2 _ hMember).2.2 rfl
      rw [advance_name hName hRest, hSilent]
      rfl
  | position digits =>
      simp only [Lexeme.step?, Option.some.injEq] at hStep
      subst hStep
      have hGroup := readGroup_position hWell rest
      have hBody : s.rest = '[' :: (digits ++ ']' :: rest) := by
        simp [hRest, Lexeme.chars]
      rw [advance_key hBody (by rw [hGroup]), behindGroup,
        hGroup]
  | quoted quote text =>
      simp only [Lexeme.step?, Option.some.injEq] at hStep
      subst hStep
      have hGroup := readGroup_quoted hWell rest
      have hBody :
          s.rest =
            '[' :: quote ::
              (text ++ quote :: ']' :: rest) := by
        simp [hRest, Lexeme.chars]
      rw [advance_key hBody (by rw [hGroup]), behindGroup,
        hGroup]

/- A running scanner is where it is. -/
theorem moveTo_self
    (hPhase : s.phase = .running) :
    s.moveTo s.offset s.rest = s := by
  unfold moveTo
  rw [← hPhase]

/-
  In either reading a row of lexemes in front of a dot or an
  opening bracket is read as if it stood alone: its steps are
  yielded with their places, in silence, and the run goes on
  behind it.
-/
theorem run_row_append
    {lexemes : List Lexeme}
    {front later : List Char}
    (hPhase : s.phase = .running)
    (hRow : Lexeme.Row lexemes front)
    (hSeam : ∀ c ∈ later.head?, c = '.' ∨ c = '[')
    (hRest : s.rest = front ++ later) :
    let behind := s.moveTo (s.offset + Utf8.size front) later
    s.run.value.fault = behind.run.value.fault ∧
      s.run.value.steps =
          Lexeme.located s.offset lexemes ++
            behind.run.value.steps ∧
        s.run.log = behind.run.log := by
  induction hRow generalizing s with
  | nil =>
      have hSame : s.moveTo s.offset later = s := by
        rw [List.nil_append] at hRest
        rw [← hRest]
        exact moveTo_self hPhase
      rw [Utf8.size_nil, Nat.add_zero, hSame]
      exact ⟨rfl, rfl, rfl⟩
  | @cons lexeme lexemes rest hWell hEnds hLater ih =>
      rw [List.append_assoc] at hRest
      have hMoved := ih
        (s := s.moveTo (s.offset + Utf8.size lexeme.chars)
          (rest ++ later))
        rfl rfl
      simp only [moveTo, Nat.add_assoc] at hMoved
      simp only [moveTo, Utf8.size_append]
      cases hStep : lexeme.step? with
      | none =>
          cases lexeme with
          | dot =>
              rw [run_dot hPhase hRest]
              exact hMoved
          | name text => simp [Lexeme.step?] at hStep
          | position digits => simp [Lexeme.step?] at hStep
          | quoted quote text => simp [Lexeme.step?] at hStep
      | some step =>
          rcases hMoved with ⟨hFault, hSteps, hLog⟩
          -- What ends a name at the end of the row is the seam.
          have hHead : ∀ c ∈ (rest ++ later).head?, c ≠ ']' := by
            cases rest with
            | nil =>
                rintro c hHead rfl
                rcases hSeam _ hHead with hDot | hOpening
                · exact absurd hDot (by decide)
                · exact absurd hOpening (by decide)
            | cons c rest => exact hLater.head?_ne_closing
          have hEndsHere : lexeme.EndsBefore (rest ++ later) := by
            cases rest with
            | nil => exact Lexeme.endsBefore_seam hSeam
            | cons c rest => exact Lexeme.endsBefore_append hEnds
          rw [run_of_yieldStep hPhase
            (advance_lexeme hWell hEndsHere hHead hStep hRest)]
          refine ⟨hFault, ?_, ?_⟩
          · rw [Run.cons, Lexeme.located, hStep]
            simp only [moveTo, hSteps]
            rfl
          · exact hLog

/- A row that is all of the text is read to its end. -/
theorem run_row
    {lexemes : List Lexeme}
    (hPhase : s.phase = .running)
    (hRow : Lexeme.Row lexemes s.rest) :
    s.run.value.fault = none ∧
      s.run.value.steps = Lexeme.located s.offset lexemes ∧
        s.run.log = [] := by
  have hWhole : s.rest = s.rest ++ [] := by simp
  rcases run_row_append hPhase hRow (by simp) hWhole with
    ⟨hFault, hSteps, hLog⟩
  have hEnd :=
    run_nil (s := s.moveTo (s.offset + Utf8.size s.rest) [])
      rfl rfl
  rw [hEnd] at hFault hSteps hLog
  rw [List.append_nil] at hSteps
  exact ⟨hFault, hSteps, hLog⟩

------------------------------------------------------------
-- What Is Read Is a Row
------------------------------------------------------------

/-
  What a strict run has read: a row of lexemes with its steps,
  and after it the end of the text, or a bracket that may not
  stand there and is the fault of the run.
-/
structure HasRead
    (s : Scanner)
    (lexemes : List Lexeme)
    (front later : List Char) : Prop where
  row : Lexeme.Row lexemes front
  whole : s.rest = front ++ later
  steps :
    s.run.value.steps = Lexeme.located s.offset lexemes
  ended : s.run.value.fault = none → later = []
  stopped :
    ∀ e, s.run.value.fault = some e →
      ∃ bracket tail,
        later = bracket :: tail ∧
          (bracket = '[' ∨ bracket = ']') ∧
            e =
              ⟨s.offset + Utf8.size front, s.source,
                faultAt bracket tail⟩

/- A bracket that is refused ends a run at once. -/
theorem hasRead_of_yieldFault
    {after : Scanner}
    {bracket : Char}
    {tail : List Char}
    {fault : Fault}
    (hPhase : s.phase = .running)
    (hRest : s.rest = bracket :: tail)
    (hBracket : bracket = '[' ∨ bracket = ']')
    (hFault : fault = faultAt bracket tail)
    (hAdvance : s.advance = after.yieldFault s.offset fault)
    (hSource : after.source = s.source) :
    s.HasRead [] [] s.rest := by
  have hRun := run_of_yieldFault hPhase hAdvance
  refine ⟨.nil, rfl, ?_, ?_, ?_⟩
  · rw [hRun]
    rfl
  · intro hNone
    rw [hRun] at hNone
    cases hNone
  · intro e hSome
    rw [hRun] at hSome
    refine ⟨bracket, tail, hRest, hBracket, ?_⟩
    rw [← hFault, ← hSource]
    exact (Option.some.inj hSome).symm

/- A lexeme in front of what is read is read as well. -/
theorem HasRead.behind
    (lexeme : Lexeme)
    {lexemes : List Lexeme}
    {front later : List Char}
    (hRead :
      (s.moveTo (s.offset + Utf8.size lexeme.chars)
        rest).HasRead lexemes front later)
    (hWell : lexeme.WellFormed)
    (hEnds : lexeme.EndsBefore rest)
    (hRest : s.rest = lexeme.chars ++ rest)
    (hSteps :
      s.run.value.steps =
        (lexeme.step?.map
          (fun step => ⟨step, some s.offset⟩)).toList ++
          (s.moveTo (s.offset + Utf8.size lexeme.chars)
            rest).run.value.steps)
    (hFault :
      s.run.value.fault =
        (s.moveTo (s.offset + Utf8.size lexeme.chars)
          rest).run.value.fault) :
    s.HasRead (lexeme :: lexemes) (lexeme.chars ++ front)
      later := by
  have hWhole : rest = front ++ later := hRead.whole
  refine ⟨?_, ?_, ?_, ?_, ?_⟩
  · rw [hWhole] at hEnds
    exact
      .cons hWell (Lexeme.endsBefore_of_append hEnds)
        hRead.row
  · rw [hRest, hWhole, List.append_assoc]
  · rw [hSteps, hRead.steps, Lexeme.located]
    cases lexeme.step? <;> rfl
  · rw [hFault]
    exact hRead.ended
  · rw [hFault, Utf8.size_append, ← Nat.add_assoc]
    exact hRead.stopped

/-
  A strict run reads a row, up to the end of the text or up to
  a bracket that may not stand where it does.
-/
theorem exists_hasRead
    (hMode : s.mode = .strict)
    (hPhase : s.phase = .running) :
    ∃ lexemes front later, s.HasRead lexemes front later := by
  induction s, hPhase using running_induction with
  | nil s hPhase hRest =>
      have hRun := run_nil hPhase hRest
      refine ⟨[], [], [], .nil, hRest, ?_, ?_, ?_⟩
      · rw [hRun]
        rfl
      · intro _
        rfl
      · intro e hSome
        rw [hRun] at hSome
        cases hSome
  | dot s hPhase rest hRest ih =>
      rcases ih hMode with ⟨lexemes, front, later, hRead⟩
      have hRun := run_dot hPhase hRest
      refine ⟨_, _, later,
        HasRead.behind .dot hRead trivial trivial
          hRest ?_ ?_⟩
      · rw [hRun]
        rfl
      · rw [hRun]
        rfl
  | name s hPhase name rest hName hRest ih =>
      rcases ih hMode with ⟨lexemes, front, later, hRead⟩
      have hRun :=
        run_of_yieldStep hPhase (advance_name hName hRest)
      rw [hMode] at hName
      have hWell : (Lexeme.name name).WellFormed :=
        ⟨hName.nonempty, fun c hMember =>
          (endsName_strict c).mp (hName.inside c hMember)⟩
      have hEnds : (Lexeme.name name).EndsBefore rest := by
        intro c hHead hPlain
        have hStop := hName.stop c hHead
        rw [(endsName_strict c).mpr hPlain] at hStop
        cases hStop
      refine ⟨_, _, later,
        HasRead.behind (.name name) hRead hWell hEnds hRest
          ?_ ?_⟩
      · rw [hRun]
        rfl
      · rw [hRun]
        rfl
  | group s hPhase body hRest ih =>
      rcases ih hMode with ⟨lexemes, front, later, hRead⟩
      cases hContent : (readGroup body).content with
      | error fault =>
          -- The row ends here, and the bracket is the fault.
          have hAdvance :=
            advance_refused_strict hMode hRest hContent
          exact
            ⟨[], [], s.rest,
              hasRead_of_yieldFault hPhase hRest (Or.inl rfl)
                (readGroup_fault hContent) hAdvance rfl⟩
      | ok key =>
          have hRun :=
            run_of_yieldStep hPhase (advance_key hRest hContent)
          rcases readGroup_sound hContent with
            ⟨lexeme, hWell, hStep, hChars, hRaw⟩
          rw [behindGroup, hRaw] at hRead hRun
          have hEnds :
              lexeme.EndsBefore (readGroup body).rest := by
            cases lexeme with
            | name text => simp [Lexeme.step?] at hStep
            | dot => trivial
            | position digits => trivial
            | quoted quote text => trivial
          refine ⟨_, _, later,
            HasRead.behind lexeme hRead hWell hEnds
              (hRest.trans hChars) ?_ ?_⟩
          · rw [hRun, hStep]
            rfl
          · rw [hRun]
            rfl
  | closing s hPhase rest _ hRest =>
      have hAdvance := advance_closing hMode hRest
      exact
        ⟨[], [], s.rest,
          hasRead_of_yieldFault hPhase hRest (Or.inr rfl) rfl
            hAdvance rfl⟩

------------------------------------------------------------
-- Whole Texts
------------------------------------------------------------

/- The scanner of a text after its start. -/
def running
    (mode : BracketMode)
    (source : String) : Scanner :=
  (ofText mode source).moveTo 0 source.toList

/- A scanner at its start goes on as if it were running. -/
theorem ofText_run
    {source : String}
    (mode : BracketMode)
    (hText : source ≠ "") :
    (ofText mode source).run = (running mode source).run := by
  apply run_congr
  have hChars : source.toList ≠ [] := by
    simpa using hText
  rw [next_running (s := running mode source) rfl]
  simp only [next, ofText, hChars, if_false]
  rfl

/- The empty text is a fault of its own. -/
theorem ofText_run_empty
    (mode : BracketMode) :
    (ofText mode "").run.value.fault =
      some ⟨0, "", .empty⟩ := by
  have hEmpty :
      (ofText mode "").next.value =
        (some (.error ⟨0, "", .empty⟩),
          (ofText mode "").finish) := by
    simp [next, ofText, yieldFault]
  rw [run_of_fault hEmpty]

/- A text that a row spells is read without a fault. -/
theorem ofText_run_row
    {source : String}
    {lexemes : List Lexeme}
    (hText : source ≠ "")
    (hRow : Lexeme.Row lexemes source.toList) :
    (ofText .strict source).run.value.fault = none ∧
      (ofText .strict source).run.value.steps =
        Lexeme.located 0 lexemes := by
  rw [ofText_run .strict hText]
  rcases run_row (s := running .strict source) rfl hRow with
    ⟨hFault, hSteps, _⟩
  exact ⟨hFault, hSteps⟩

/- A text that is read without a fault is spelled by a row. -/
theorem row_of_ofText_run
    {source : String}
    (hFault :
      (ofText .strict source).run.value.fault = none) :
    source ≠ "" ∧
      ∃ lexemes, Lexeme.Row lexemes source.toList := by
  by_cases hText : source = ""
  · rw [hText, ofText_run_empty] at hFault
    cases hFault
  · rw [ofText_run .strict hText] at hFault
    rcases exists_hasRead (s := running .strict source)
        rfl rfl with
      ⟨lexemes, front, later, hRead⟩
    have hWhole := hRead.whole
    rw [hRead.ended hFault, List.append_nil] at hWhole
    have hRow := hRead.row
    rw [← hWhole] at hRow
    exact ⟨hText, lexemes, hRow⟩

end Scanner

namespace Plan

/- A text is read as a plan if a row spells it. -/
theorem ofText?_eq_ok_iff
    {source : String}
    {plan : Plan} :
    ofText? source = .ok plan ↔
      source ≠ "" ∧
        ∃ lexemes,
          Lexeme.Row lexemes source.toList ∧
            plan.steps = Lexeme.located 0 lexemes := by
  unfold ofText? parse
  dsimp only
  constructor
  · intro hRead
    split at hRead
    · simp at hRead
    · rename_i hFault
      simp only [Except.ok.injEq] at hRead
      rcases Scanner.row_of_ofText_run hFault with
        ⟨hText, lexemes, hRow⟩
      refine ⟨hText, lexemes, hRow, ?_⟩
      rw [← hRead]
      exact (Scanner.ofText_run_row hText hRow).2
  · rintro ⟨hText, lexemes, hRow, hSteps⟩
    rcases Scanner.ofText_run_row hText hRow with ⟨hFault, hRun⟩
    simp only [hFault, hRun, ← hSteps]

end Plan

namespace Scanner

/-
  Strict reading accepts exactly the texts that are spelled
  by a row of lexemes.  There is at most one such row, and
  the steps that are yielded are its steps, each at the byte
  where its lexeme begins.
-/
theorem strict_run_spells
    (source : String) :
    let run := (ofText .strict source).run.value
    (run.fault = none ↔
        source ≠ "" ∧
          ∃ lexemes, Lexeme.Spells lexemes source.toList) ∧
      (∀ lexemes other,
        Lexeme.Spells lexemes source.toList →
          Lexeme.Spells other source.toList →
            lexemes = other) ∧
      (∀ lexemes,
        source ≠ "" →
          Lexeme.Spells lexemes source.toList →
            run.steps = Lexeme.located 0 lexemes) := by
  simp only [Lexeme.spells_iff_row]
  refine ⟨⟨row_of_ofText_run, ?_⟩, ?_, ?_⟩
  · rintro ⟨hText, lexemes, hRow⟩
    exact (ofText_run_row hText hRow).1
  · intro lexemes other hRow hOther
    exact Lexeme.row_unique hRow hOther
  · intro lexemes hText hRow
    exact (ofText_run_row hText hRow).2

/- A quote that does not stand before a bracket ends nothing. -/
theorem strict_run_spells_one_key :
    let source := "['a].b['c']"
    let key : Lexeme := .quoted '\'' "a].b['c".toList
    let run := (ofText .strict source).run.value
    source ≠ "" ∧
      Lexeme.Spells [key] source.toList ∧
        run.fault = none ∧
          run.steps = [⟨.keyed (.name "a].b['c"), some 0⟩] := by
  intro source key run
  have hText : source ≠ "" := by decide
  have hWell : key.WellFormed := by
    refine ⟨Or.inl rfl, by decide, ?_⟩
    unfold Closes
    decide
  have hSpells : Lexeme.Spells [key] source.toList := by
    have hSource : source.toList = key.chars ++ [] := by decide
    rw [Lexeme.spells_iff_row, hSource]
    exact Lexeme.Row.cons hWell trivial Lexeme.Row.nil
  rcases strict_run_spells source with ⟨hAccepts, _, hSteps⟩
  refine ⟨hText, hSpells, ?_, ?_⟩
  · exact hAccepts.mpr ⟨hText, [key], hSpells⟩
  · rw [hSteps [key] hText hSpells]
    rfl

end Scanner

end TreePath
