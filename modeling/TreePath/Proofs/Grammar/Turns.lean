import TreePath.Grammar.Reading
import TreePath.Proofs.Grammar.Group

/-
  What a running scanner does next, told by what stands in
  front of it, and an induction over all that it still has to
  read.  Both hold in either reading of brackets.

  Key definitions include:
    * `Grammar.IsName`

  Main statements:
    * `Scanner.run_of_yieldStep`
    * `Scanner.run_of_yieldFault`
    * `Scanner.running_induction`
-/

------------------------------------------------------------
-- Names
------------------------------------------------------------

namespace TreePath

namespace Grammar

/- In strict reading a name ends where the grammar says. -/
theorem endsName_strict
    (c : Char) :
    endsName .strict c = false ↔ Plain c := by
  simp only [endsName, Plain, Bool.or_eq_false_iff,
    Bool.and_eq_false_iff, beq_eq_false_iff_ne]
  constructor
  · rintro ⟨⟨hDot, hOpening⟩, hClosing⟩
    refine ⟨hDot, hOpening, ?_⟩
    rcases hClosing with hMode | hClosing
    · exact absurd rfl hMode
    · exact hClosing
  · rintro ⟨hDot, hOpening, hClosing⟩
    exact ⟨⟨hDot, hOpening⟩, Or.inr hClosing⟩

/- In loose reading it ends at a dot or an opening bracket. -/
theorem endsName_loose
    (c : Char) :
    endsName .loose c = true ↔ c = '.' ∨ c = '[' := by
  simp [endsName]

/-
  A text is a name before a rest if nothing in it ends a name
  and the rest begins with something that does.
-/
structure IsName
    (mode : BracketMode)
    (name rest : List Char) : Prop where
  nonempty : name ≠ []
  inside : ∀ c ∈ name, endsName mode c = false
  stop : ∀ c ∈ rest.head?, endsName mode c = true

/-
  A text that begins with a character of a name splits into
  a name and a rest.
-/
theorem isName_span
    {mode : BracketMode}
    {c : Char}
    (hInside : endsName mode c = false)
    (cs : List Char) :
    IsName mode
      ((c :: cs).takeWhile (fun d => !endsName mode d))
      ((c :: cs).dropWhile (fun d => !endsName mode d)) := by
  refine ⟨?_, ?_, ?_⟩
  · simp [hInside]
  · intro d hMember
    have hTaken := List.mem_takeWhile_imp hMember
    simpa using hTaken
  · intro d hHead
    have hNot := List.head?_dropWhile_not
      (fun d => !endsName mode d) (c :: cs)
    rw [Option.mem_def] at hHead
    rw [hHead] at hNot
    simpa using hNot

/- Every closing bracket has its offset. -/
theorem length_closingOffsets
    (offset : Nat)
    (cs : List Char) :
    (closingOffsets offset cs).length = cs.count ']' := by
  induction cs generalizing offset with
  | nil => rfl
  | cons c cs ih =>
      by_cases hClosing : c = ']'
      · simp [closingOffsets, hClosing, ih]
      · simp [closingOffsets, hClosing, ih]

/- A text without closing brackets has none of them. -/
theorem closingOffsets_eq_nil
    {offset : Nat}
    {cs : List Char}
    (hNone : ']' ∉ cs) :
    closingOffsets offset cs = [] := by
  apply List.eq_nil_of_length_eq_zero
  rw [length_closingOffsets, List.count_eq_zero]
  exact hNone

end Grammar

------------------------------------------------------------
-- One Call
------------------------------------------------------------

namespace Scanner

open Grammar

variable {s after : Scanner} {rest : List Char}

/- At the end of the text there is nothing to yield. -/
theorem advance_nil
    (hRest : s.rest = []) :
    s.advance =
      ⟨(none, (s.moveTo s.offset []).finish), []⟩ := by
  simp [advance, hRest]

/- A dot in front is skipped. -/
theorem advance_dot
    (hRest : s.rest = '.' :: rest) :
    s.advance = (s.moveTo (s.offset + 1) rest).advance := by
  have hSize : '.'.utf8Size = 1 := rfl
  unfold advance
  simp only [hRest, moveTo, List.takeWhile_cons,
    List.dropWhile_cons, beq_self_eq_true, if_true,
    Utf8.size_cons, hSize, ← Nat.add_assoc]
  rfl

/- A name in front is yielded, up to where it ends. -/
theorem advance_name
    {name : List Char}
    (hName : IsName s.mode name rest)
    (hRest : s.rest = name ++ rest) :
    s.advance =
      (s.moveTo (s.offset + Utf8.size name) rest).yieldStep
        (.named (String.ofList name)) s.offset
        ((closingOffsets s.offset name).map
          (fun o => .strayBracket o s.source)) := by
  rcases List.exists_cons_of_ne_nil hName.nonempty with
    ⟨c, tail, rfl⟩
  have hFirst := hName.inside c (by simp)
  have hDot : (c == '.') = false := by
    simp only [endsName, Bool.or_eq_false_iff] at hFirst
    exact hFirst.1.1
  have hOpening : c ≠ '[' := by
    simp only [endsName, Bool.or_eq_false_iff] at hFirst
    simpa using hFirst.1.2
  have hClosing : ¬ (c = ']' ∧ s.mode = .strict) := by
    rintro ⟨rfl, hMode⟩
    rw [hMode] at hFirst
    cases hFirst
  have hInside :
      ∀ d ∈ c :: tail, (!endsName s.mode d) = true := by
    intro d hMember
    rw [hName.inside d hMember]
    rfl
  have hStop :
      ∀ d ∈ rest.head?, (!endsName s.mode d) = false := by
    intro d hHead
    rw [hName.stop d hHead]
    rfl
  have hRead :
      s.readName s.offset (c :: tail ++ rest) =
        (s.moveTo (s.offset + Utf8.size (c :: tail))
          rest).yieldStep
          (.named (String.ofList (c :: tail))) s.offset
          ((closingOffsets s.offset (c :: tail)).map
            (fun o => .strayBracket o s.source)) := by
    simp only [readName, takeWhile_run hInside hStop,
      dropWhile_run hInside hStop]
  rw [← hRead]
  unfold advance
  simp only [hRest, List.cons_append, List.takeWhile_cons,
    List.dropWhile_cons, hDot, Bool.false_eq_true,
    if_false, Utf8.size_nil, Nat.add_zero]
  rw [if_neg hClosing]

/- A bracket that opens begins a group. -/
theorem advance_bracket
    {body : List Char}
    (hRest : s.rest = '[' :: body) :
    s.advance = s.readBracket s.offset body := by
  simp [advance, hRest]

/- The scanner behind a group. -/
def behindGroup
    (s : Scanner)
    (body : List Char) : Scanner :=
  s.moveTo (s.offset + Utf8.size (readGroup body).raw)
    (readGroup body).rest

/- A group that can be read is yielded as its key. -/
theorem advance_key
    {body : List Char}
    {key : Key}
    (hRest : s.rest = '[' :: body)
    (hKey : (readGroup body).content = .ok key) :
    s.advance =
      (s.behindGroup body).yieldStep
        (.keyed key) s.offset [] := by
  simp [advance_bracket hRest, readBracket, hKey, behindGroup]

/- In strict reading a group that is refused is a fault. -/
theorem advance_refused_strict
    {body : List Char}
    {fault : Fault}
    (hMode : s.mode = .strict)
    (hRest : s.rest = '[' :: body)
    (hFault : (readGroup body).content = .error fault) :
    s.advance =
      (s.behindGroup body).yieldFault s.offset fault := by
  simp [advance_bracket hRest, readBracket, hFault, hMode,
    behindGroup]

/- In loose reading its text is yielded, with a warning. -/
theorem advance_refused_loose
    {body : List Char}
    {fault : Fault}
    (hMode : s.mode = .loose)
    (hRest : s.rest = '[' :: body)
    (hFault : (readGroup body).content = .error fault) :
    s.advance =
      (s.behindGroup body).yieldStep
        (.named (String.ofList (readGroup body).raw)) s.offset
        [.demotedBracket (String.ofList (readGroup body).raw)
          s.offset s.source fault] := by
  simp [advance_bracket hRest, readBracket, hFault, hMode,
    behindGroup]

/- In strict reading no bracket may close in front. -/
theorem advance_closing
    (hMode : s.mode = .strict)
    (hRest : s.rest = ']' :: rest) :
    s.advance =
      (s.moveTo s.offset (']' :: rest)).yieldFault
        s.offset .unexpectedBracket := by
  simp [advance, hRest, hMode]

------------------------------------------------------------
-- Whole Runs
------------------------------------------------------------

/- A run ends where a call yields nothing. -/
theorem run_of_none
    (hNext : s.next.value = (none, after)) :
    s.run = ⟨⟨[], none, after⟩, s.next.log⟩ := by
  rw [run]
  split <;> simp_all

/- A run stops at a fault. -/
theorem run_of_fault
    {e : SyntaxError}
    (hNext : s.next.value = (some (.error e), after)) :
    s.run = ⟨⟨[], some e, after⟩, s.next.log⟩ := by
  rw [run]
  split <;> simp_all

/- A run goes on behind a step. -/
theorem run_of_step
    {step : LocatedStep}
    (hNext : s.next.value = (some (.ok step), after)) :
    s.run =
      ⟨after.run.value.cons step,
        s.next.log ++ after.run.log⟩ := by
  rw [run]
  split <;> simp_all

/- A running scanner only ever advances. -/
theorem next_running
    (hPhase : s.phase = .running) :
    s.next = s.advance := by
  simp [next, hPhase]

/- Runs that begin with the same call are the same. -/
theorem run_congr
    {t : Scanner}
    (hNext : s.next = t.next) :
    s.run = t.run := by
  rcases hValue : t.next.value with ⟨outcome, after⟩
  have hSame : s.next.value = (outcome, after) := by
    rw [hNext, hValue]
  cases outcome with
  | none =>
      rw [run_of_none hSame, run_of_none hValue, hNext]
  | some outcome =>
      cases outcome with
      | error e =>
          rw [run_of_fault hSame, run_of_fault hValue, hNext]
      | ok step =>
          rw [run_of_step hSame, run_of_step hValue, hNext]

/- At the end of the text a run is over. -/
theorem run_nil
    (hPhase : s.phase = .running)
    (hRest : s.rest = []) :
    s.run =
      ⟨⟨[], none, (s.moveTo s.offset []).finish⟩, []⟩ := by
  have hNext := next_running hPhase
  rw [advance_nil hRest] at hNext
  rw [run_of_none (congrArg Logged.value hNext), hNext]

/- A run skips a dot. -/
theorem run_dot
    (hPhase : s.phase = .running)
    (hRest : s.rest = '.' :: rest) :
    s.run = (s.moveTo (s.offset + 1) rest).run := by
  apply run_congr
  rw [next_running hPhase, advance_dot hRest]
  exact (next_running rfl).symm

/- A run goes on behind a step that is yielded. -/
theorem run_of_yieldStep
    {step : Step}
    {offset : Nat}
    {warnings : List Warning}
    (hPhase : s.phase = .running)
    (hAdvance :
      s.advance = after.yieldStep step offset warnings) :
    s.run =
      ⟨after.run.value.cons ⟨step, some offset⟩,
        warnings ++ after.run.log⟩ := by
  have hNext := next_running hPhase
  rw [hAdvance] at hNext
  rw [run_of_step (congrArg Logged.value hNext), hNext]
  rfl

/- A run stops at a fault that is yielded. -/
theorem run_of_yieldFault
    {offset : Nat}
    {fault : Fault}
    (hPhase : s.phase = .running)
    (hAdvance : s.advance = after.yieldFault offset fault) :
    s.run =
      ⟨⟨[], some ⟨offset, after.source, fault⟩,
        after.finish⟩, []⟩ := by
  have hNext := next_running hPhase
  rw [hAdvance] at hNext
  rw [run_of_fault (congrArg Logged.value hNext), hNext]
  rfl

------------------------------------------------------------
-- Induction over a Text
------------------------------------------------------------

/-
  What holds of a running scanner at the end of its text, and
  of one in front of a dot, a name or a group as soon as it
  holds behind it, holds of all; in strict reading a closing
  bracket ends the text as well.
-/
@[elab_as_elim]
theorem running_induction
    {motive : (s : Scanner) → s.phase = .running → Prop}
    (nil :
      ∀ s hPhase, s.rest = [] → motive s hPhase)
    (dot :
      ∀ s hPhase rest, s.rest = '.' :: rest →
        motive (s.moveTo (s.offset + 1) rest) rfl →
          motive s hPhase)
    (name :
      ∀ s hPhase name rest,
        IsName s.mode name rest → s.rest = name ++ rest →
          motive
            (s.moveTo (s.offset + Utf8.size name) rest)
            rfl →
            motive s hPhase)
    (group :
      ∀ s hPhase body, s.rest = '[' :: body →
        motive (s.behindGroup body) rfl → motive s hPhase)
    (closing :
      ∀ s hPhase rest,
        s.mode = .strict → s.rest = ']' :: rest →
          motive s hPhase)
    (s : Scanner)
    (hPhase : s.phase = .running) :
    motive s hPhase := by
  -- The text behind a dot, a name or a group is shorter.
  induction hLength : s.rest.length using
    Nat.strong_induction_on generalizing s with
  | h length ih =>
      subst hLength
      cases hRest : s.rest with
      | nil => exact nil s hPhase hRest
      | cons c cs =>
          by_cases hDot : c = '.'
          · subst hDot
            apply dot s hPhase cs hRest
            exact ih cs.length (by simp [hRest]) _ rfl rfl
          by_cases hOpening : c = '['
          · subst hOpening
            apply group s hPhase cs hRest
            have hShorter := length_readGroup_le cs
            refine ih _ ?_ _ rfl rfl
            simp only [behindGroup, moveTo, hRest,
              List.length_cons]
            omega
          by_cases hClosing : c = ']' ∧ s.mode = .strict
          · rcases hClosing with ⟨rfl, hMode⟩
            exact closing s hPhase cs hMode hRest
          · have hInside : endsName s.mode c = false := by
              cases hMode : s.mode <;>
                simp_all [endsName]
            have hName := isName_span hInside cs
            have hWhole :=
              List.takeWhile_append_dropWhile
                (p := fun d => !endsName s.mode d)
                (l := c :: cs)
            apply name s hPhase _ _ hName
            · rw [hRest, hWhole]
            · refine ih _ ?_ _ rfl rfl
              have hShorter := congrArg List.length hWhole
              have hTaken :=
                List.length_pos_of_ne_nil hName.nonempty
              rw [List.length_append] at hShorter
              simp only [moveTo, hRest]
              omega

end Scanner

end TreePath
