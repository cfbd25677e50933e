import TreePath.Proofs.Access.Logs
import TreePath.Proofs.Access.Regimes

/-
  What the log says about the answer to a miss, next to what
  the read returns.  The line names what is returned, but for
  one read: the default that is given along with a text comes
  in behind the line, which has named null by then.

  Key definitions include:
    * `Event.linesAt`
    * `Event.note`
    * `ReadCall.result`

  Main statements:
    * `ReadCall.result_of_answered`
    * `ReadCall.note_names_result_iff`
    * `ReadCall.exists_note_without_result`
-/

------------------------------------------------------------
-- Lines
------------------------------------------------------------

namespace TreePath

section Lines

variable [EntryOrder]

namespace Event

/- The lines of a log at one level, in order. -/
def linesAt
    (level : LogLevel)
    (log : List Event) : List String :=
  (log.filter (fun event => event.level = level)).map line

/- The line that notes a miss, and a text for its answer. -/
def note
    (e : PathNotFound)
    (answer : String) : String :=
  LogLevel.debug.word ++ " " ++
    (e.message ++ "; falling back to " ++ answer)

/- Warnings are not at the level of notes. -/
theorem linesAt_debug_of_warnings
    {warnings : List Event}
    (hLevels : ∀ event ∈ warnings, event.level = .warn)
    (later : List Event) :
    linesAt .debug (warnings ++ later) =
      linesAt .debug later := by
  have hNone :
      warnings.filter (fun event => event.level = .debug) =
        [] := by
    rw [List.filter_eq_nil_iff]
    intro event hMember
    rw [hLevels event hMember]
    decide
  rw [linesAt, List.filter_append, hNone, List.nil_append]
  rfl

/- A miss that is answered has one note. -/
theorem linesAt_debug_answered
    (e : PathNotFound)
    (answer : Option Value) :
    linesAt .debug [.missed e, .fellBack e answer] =
      [note e (Value.inspectOption answer)] :=
  rfl

end Event

/- No value is inspected as null is. -/
theorem Value.inspectOption_some_ne
    (v : Value) :
    inspectOption none ≠ inspectOption (some v) := by
  intro hSame
  have hChars := congrArg String.toList hSame
  simp [inspectOption] at hChars

end Lines

------------------------------------------------------------
-- Results
------------------------------------------------------------

/- A result that is mapped last succeeds as it did before. -/
theorem Read.outcome_map
    {α β : Type}
    (r : Read α)
    (f : α → β) :
    Read.outcome (r.map (Except.map f)) = r.outcome := by
  simp only [Read.outcome, Logged.map]
  cases r.value with
  | error e => rfl
  | ok a => rfl

namespace ReadCall

section Notes

variable [RecordKeys]

/-
  What a read returns: a value, or null.  A place stands for
  the value in it.
-/
def result
    (call : ReadCall)
    (root : Value) : Read (Option Value) :=
  match call with
  | .resolve plan =>
      (Read.ofWalk (plan.resolve root)).map (Except.map some)
  | .resolveAs plan type =>
      (plan.resolveAs type root).map (Except.map some)
  | .resolvePlace plan =>
      (Read.ofWalk (plan.resolvePlace root)).map
        (Except.map (fun place => some place.node))
  | .apply accessor => accessor.apply root
  | .applyWith accessor args => accessor.applyWith args root
  | .get accessor => accessor.get root
  | .getWith accessor source fallback =>
      accessor.getWith source fallback root
  | .getAs accessor type =>
      (accessor.getAs type root).map (Except.map some)
  | .getPlace accessor =>
      (accessor.getPlace root).map
        (Except.map (fun place => some place.node))
  | .getPlaceAs accessor type =>
      (accessor.getPlaceAs type root).map
        (Except.map (fun place => some place.node))
  | .access source =>
      (root.access source).map (Except.map some)
  | .accessAs source type =>
      (root.accessAs type source).map (Except.map some)
  | .accessPlace source =>
      (root.accessPlace source).map
        (Except.map (fun place => some place.node))
  | .getPath source => root.getPath source
  | .getPathOr source fallback =>
      (root.getPathOr source fallback).map (Except.map some)

/- It is returned by the call that is performed. -/
theorem outcome_result
    (call : ReadCall)
    (root : Value) :
    Read.outcome (call.result root) = call.perform root := by
  cases call with
  | apply accessor
  | applyWith accessor args
  | get accessor
  | getWith accessor source fallback
  | getPath source =>
      rfl
  | resolve plan
  | resolveAs plan type
  | resolvePlace plan
  | getAs accessor type
  | getPlace accessor
  | getPlaceAs accessor type
  | access source
  | accessAs source type
  | accessPlace source
  | getPathOr source fallback =>
      exact Read.outcome_map _ _

/- The two have one log. -/
theorem log_result
    (call : ReadCall)
    (root : Value) :
    (call.result root).log = (call.perform root).log :=
  congrArg Logged.log (call.outcome_result root)

/- What is returned is returned in success. -/
theorem perform_of_result
    {call : ReadCall}
    {root : Value}
    {found : Option Value}
    (hResult : (call.result root).value = .ok found) :
    (call.perform root).value = .ok () := by
  rw [← call.outcome_result root]
  simp only [Read.outcome, Logged.value_map, hResult]
  rfl

------------------------------------------------------------
-- Answers
------------------------------------------------------------

/-
  What a read returns for the answer that it noted.  A default
  that comes along with a text takes the place of null.
-/
def settle : ReadCall → Option Value → Option Value
| .getPathOr _ fallback, answer => some (answer.getD fallback)
| _, answer => answer

/- A walk that misses returns the answer to the miss. -/
theorem value_andThen_resolveOr
    {r : Read Plan}
    {plan : Plan}
    {root : Value}
    {e : PathNotFound}
    {answer : Option Value}
    {given : Option (Option Value)}
    (hPlan : r.value = .ok plan)
    (hMiss : (plan.resolve root).value = .error e)
    (hAnswer : given = some answer) :
    (Read.andThen r (fun plan =>
      plan.resolveOr root given)).value = .ok answer := by
  subst hAnswer
  rw [Read.andThen_of_ok hPlan]
  exact Plan.value_resolveOr_of_miss hMiss (some answer)

/- A read that has an answer to a miss returns it, settled. -/
theorem result_of_answered
    {call : ReadCall}
    {plan : Plan}
    {root : Value}
    {e : PathNotFound}
    {answer : Option Value}
    (hPlan : call.plan.value = .ok plan)
    (hMiss : (plan.resolve root).value = .error e)
    (hAnswer : call.answer? = some answer) :
    (call.result root).value = .ok (call.settle answer) := by
  cases call with
  | apply accessor =>
      simp only [result, Accessor.apply, Accessor.applyWith_eq]
      exact value_andThen_resolveOr hPlan hMiss hAnswer
  | applyWith accessor args =>
      simp only [result]
      rw [show args = ⟨args.source, args.fallback, args.strict⟩
        from rfl, Accessor.applyWith_eq]
      exact value_andThen_resolveOr hPlan hMiss hAnswer
  | get accessor =>
      simp only [result, Accessor.get, Accessor.getWith_eq]
      exact value_andThen_resolveOr hPlan hMiss hAnswer
  | getWith accessor source fallback =>
      simp only [result, Accessor.getWith_eq]
      exact value_andThen_resolveOr hPlan hMiss hAnswer
  | getPath source =>
      simp only [result, Value.getPath_eq]
      exact value_andThen_resolveOr hPlan hMiss hAnswer
  | getPathOr source fallback =>
      have hNull :
          (root.getPath source).value = .ok answer := by
        rw [Value.getPath_eq]
        exact value_andThen_resolveOr hPlan hMiss hAnswer
      simp only [result, Value.getPathOr, Logged.value_map,
        Read.andThen_of_ok hNull]
      rfl
  | resolve plan
  | resolveAs plan type
  | resolvePlace plan
  | getAs accessor type
  | getPlace accessor
  | getPlaceAs accessor type
  | access source
  | accessAs source type
  | accessPlace source =>
      cases hAnswer

------------------------------------------------------------
-- Notes
------------------------------------------------------------

variable [EntryOrder]

/- A read that misses and returns has noted its answer. -/
theorem linesAt_debug_of_missed
    {call : ReadCall}
    {root : Value}
    {e : PathNotFound}
    {found : Option Value}
    (hMisses : (Call.read call).Misses root e)
    (hResult : (call.result root).value = .ok found) :
    ∃ answer,
      Event.linesAt .debug (call.result root).log =
          [Event.note e (Value.inspectOption answer)] ∧
        call.answer? = some answer ∧
          found = call.settle answer := by
  have hPerform := perform_of_result hResult
  rcases Call.exists_walked (.read call) root with
    ⟨events, hLog, hWalked⟩
  have hLevels :
      ∀ event ∈ (Call.read call).warnings,
        event.level = .warn := by
    intro event hMember
    rcases List.mem_map.mp hMember with ⟨warning, _, rfl⟩
    rfl
  rcases hMisses with ⟨plan, way, v, hPlan, hWay, hAt⟩
  rcases Option.some.inj hWay with rfl
  have hLocate := Plan.locate_of_missesAt hAt
  have hMiss : (plan.resolve root).value = .error e := by
    rw [Plan.resolve, Plan.value_traced]
    exact hLocate
  cases hWalked with
  | silent hNone =>
      exact absurd ⟨plan, plan, v, hPlan, rfl, hAt⟩ (hNone e)
  | missed _ _ hFails =>
      have hFails : (call.perform root).value = _ := hFails
      rw [hPerform] at hFails
      cases hFails
  | @answered other answer hOther hAnswer _ =>
      -- The walk has one miss only.
      rcases Call.locate_of_misses hPlan hOther with
        ⟨way, hOtherWay, hOtherLocate⟩
      rcases Option.some.inj hOtherWay with rfl
      rw [hLocate] at hOtherLocate
      rcases Except.error.inj hOtherLocate with rfl
      have hSettled := result_of_answered hPlan hMiss hAnswer
      rw [hResult] at hSettled
      refine ⟨answer, ?_, hAnswer, Except.ok.inj hSettled⟩
      have hPerformed : (call.perform root).log = _ := hLog
      rw [log_result, hPerformed,
        Event.linesAt_debug_of_warnings hLevels]
      exact Event.linesAt_debug_answered e answer

/-
  A read that misses and returns has one note.  The text in it
  is that of what is returned, unless a default was given
  along with a text of its own: then the note names null,
  while the default is returned.
-/
theorem note_names_result_iff
    {call : ReadCall}
    {root : Value}
    {e : PathNotFound}
    {found : Option Value}
    (hMisses : (Call.read call).Misses root e)
    (hResult : (call.result root).value = .ok found) :
    ∃ text,
      Event.linesAt .debug (call.result root).log =
          [Event.note e text] ∧
        (text = Value.inspectOption found ↔
          ∀ source fallback,
            call ≠ .getPathOr source fallback) ∧
        (∀ source fallback,
          call = .getPathOr source fallback →
            text = "None" ∧ found = some fallback) := by
  rcases linesAt_debug_of_missed hMisses hResult with
    ⟨answer, hLines, hAnswer, rfl⟩
  refine ⟨_, hLines, ?_, ?_⟩
  · constructor
    · rintro hSame source fallback rfl
      rcases Option.some.inj hAnswer with rfl
      exact Value.inspectOption_some_ne fallback hSame
    · intro hOther
      cases call with
      | getPathOr source fallback =>
          exact absurd rfl (hOther source fallback)
      | _ => rfl
  · rintro source fallback rfl
    rcases Option.some.inj hAnswer with rfl
    exact ⟨rfl, rfl⟩

end Notes

/-
  The default of an accessor is named in the note, with a mark
  that it is a value; the default of a text is not.
-/
theorem note_names_result_iff_default :
    let root : Value := .scalar (.bool true)
    let default : Value := .scalar (.string "b")
    let plan := Plan.ofSteps [.named "a"]
    let accessor := (Accessor.ofPlan plan).withDefault default
    let e : PathNotFound :=
      ⟨.ofStep (.named "a"), 0, root.typeName,
        .on .noSuchField root⟩
    (Call.read (.apply accessor)).Misses root e ∧
      (accessor.apply root).value = .ok (some default) ∧
        Event.linesAt .debug (accessor.apply root).log =
          [Event.note e "Some(\"b\")"] := by
  intro root default plan accessor e
  have hPlan :
      (Call.read (.apply accessor)).plan.value = .ok plan :=
    rfl
  have hMisses : (Call.read (.apply accessor)).Misses root e :=
    Call.misses_of_locate hPlan rfl rfl
  have hResult :
      (result (.apply accessor) root).value =
        .ok (some default) :=
    rfl
  rcases note_names_result_iff hMisses hResult with
    ⟨text, hLines, hNames, _⟩
  have hText : text = Value.inspectOption (some default) := by
    rw [hNames]
    intro source fallback hCall
    cases hCall
  rw [hText] at hLines
  exact ⟨hMisses, hResult, hLines⟩

/- The note of a read does not always name what it returns. -/
theorem exists_note_without_result :
    ¬ ∀ (call : ReadCall) (root : Value) (e : PathNotFound)
        (found : Option Value),
        (Call.read call).Misses root e →
          (call.result root).value = .ok found →
            Event.linesAt .debug (call.result root).log =
              [Event.note e (Value.inspectOption found)] := by
  intro hNames
  let root : Value := .scalar (.integer ⟨true, .w32⟩ 0)
  let fallback : Value := .scalar (.literal "dflt")
  let call : ReadCall := .getPathOr "zzz" fallback
  let missing : LocatedStep := ⟨.named "zzz", some 0⟩
  let e : PathNotFound :=
    ⟨missing, 0, root.typeName, .on .noSuchField root⟩
  have hRead :
      (Plan.parse .strict "zzz").value = .ok ⟨[missing]⟩ := by
    rw [Plan.parse_eq_ok_iff]
    decide +kernel
  have hPlan : call.plan.value = .ok ⟨[missing]⟩ := by
    simp only [call, plan, Read.plan, Logged.value_mapLog,
      hRead]
    rfl
  have hMisses : (Call.read call).Misses root e :=
    Call.misses_of_locate hPlan rfl rfl
  have hResult :
      (call.result root).value = .ok (some fallback) :=
    result_of_answered hPlan rfl rfl
  rcases linesAt_debug_of_missed hMisses hResult with
    ⟨answer, hLines, hAnswer, _⟩
  rcases Option.some.inj hAnswer with rfl
  rw [hNames call root e _ hMisses hResult] at hLines
  revert hLines
  decide +kernel

end ReadCall

end TreePath
