import TreePath.Proofs.Access.Misses
import TreePath.Proofs.Access.ReadCall
import TreePath.Proofs.Access.WriteCall

/-
  What a call on a tree logs.  The warnings of a text that is
  read loosely come first.  A step that misses is traced, and
  the answer to it is noted where there is one; nothing else
  is ever logged.

  Key definitions include:
    * `Call`
    * `Call.Misses`
    * `Call.Walked`
    * `Call.LogFollows`

  Main statements:
    * `Scanner.log_ofText_run_strict`
    * `Call.log_follows_outcome`
-/

------------------------------------------------------------
-- Strict Reading
------------------------------------------------------------

namespace TreePath

namespace Scanner

open Grammar

/- A strict scanner has nothing to warn about. -/
theorem log_run_of_strict
    {s : Scanner}
    (hPhase : s.phase = .running)
    (hMode : s.mode = .strict) :
    s.run.log = [] := by
  induction s, hPhase using running_induction with
  | nil s hPhase hRest => rw [run_nil hPhase hRest]
  | dot s hPhase rest hRest ih =>
      rw [run_dot hPhase hRest]
      exact ih hMode
  | name s hPhase name rest hName hRest ih =>
      have hNone : ']' ∉ name := by
        intro hClosing
        have hInside := hName.inside ']' hClosing
        rw [hMode, endsName_strict] at hInside
        exact hInside.2.2 rfl
      rw [run_of_yieldStep hPhase (advance_name hName hRest),
        closingOffsets_eq_nil hNone]
      exact ih hMode
  | group s hPhase body hRest ih =>
      cases hContent : (readGroup body).content with
      | ok key =>
          rw [run_of_yieldStep hPhase
            (advance_key hRest hContent)]
          exact ih hMode
      | error fault =>
          rw [run_of_yieldFault hPhase
            (advance_refused_strict hMode hRest hContent)]
  | closing s hPhase rest hStrict hRest =>
      rw [run_of_yieldFault hPhase
        (advance_closing hStrict hRest)]

/- Nothing is ever logged where a text is read strictly. -/
theorem log_ofText_run_strict
    (source : String) :
    (ofText .strict source).run.log = [] := by
  by_cases hText : source = ""
  · subst hText
    have hEmpty :
        (ofText .strict "").next =
          (ofText .strict "").yieldFault 0 .empty := by
      simp [next, ofText]
    rw [run_of_fault (congrArg Logged.value hEmpty), hEmpty]
    rfl
  · rw [ofText_run .strict hText]
    exact log_run_of_strict rfl rfl

end Scanner

/- The warnings of a plan are those of its scanner. -/
theorem Plan.log_parse
    (mode : BracketMode)
    (source : String) :
    (parse mode source).log =
      (Scanner.ofText mode source).run.log := by
  simp only [parse]
  cases (Scanner.ofText mode source).run.value.fault with
  | none => rfl
  | some e => rfl

/-
  A text to read in some mode, if there is one, and the
  warnings about it.
-/
def Plan.warnings : Option (BracketMode × String) → List Warning
| none => []
| some (mode, source) => (parse mode source).log

/- Only loose reading warns. -/
theorem Plan.loose_of_warnings
    {text : Option (BracketMode × String)}
    (hWarns : warnings text ≠ []) :
    ∃ source, text = some (.loose, source) := by
  rcases text with _ | ⟨mode, source⟩
  · exact absurd rfl hWarns
  · cases mode with
    | loose => exact ⟨source, rfl⟩
    | strict =>
        simp [warnings, log_parse,
          Scanner.log_ofText_run_strict] at hWarns

namespace Accessor

/- The text that a call to an accessor brings along. -/
def text?
    (a : Accessor)
    (source : Option String) : Option (BracketMode × String) :=
  source.map (fun source => (a.options.brackets, source))

/- The plan of an accessor has been read before. -/
theorem log_ownPlan
    (a : Accessor) :
    a.ownPlan.log = [] := by
  unfold ownPlan
  cases a.plan with
  | none => rfl
  | some plan => rfl

/- An accessor reads no other text than that of the call. -/
theorem log_planFor
    (a : Accessor)
    (source : Option String) :
    (a.planFor source).log =
      (Plan.warnings (a.text? source)).map .warned := by
  cases source with
  | none => exact a.log_ownPlan
  | some source => rfl

end Accessor

------------------------------------------------------------
-- Calls
------------------------------------------------------------

/- The text that a read brings along, and how it is read. -/
def ReadCall.text? :
    ReadCall → Option (BracketMode × String)
| .applyWith accessor args => accessor.text? args.source
| .getWith accessor source _ => accessor.text? source
| .access source => some (.strict, source)
| .accessAs source _ => some (.strict, source)
| .accessPlace source => some (.strict, source)
| .getPath source => some (.strict, source)
| .getPathOr source _ => some (.strict, source)
| _ => none

/- A read warns about its text only. -/
theorem ReadCall.log_plan
    (call : ReadCall) :
    call.plan.log = (Plan.warnings call.text?).map .warned := by
  cases call with
  | applyWith accessor args =>
      exact accessor.log_planFor args.source
  | getWith accessor source fallback =>
      exact accessor.log_planFor source
  | apply accessor
  | get accessor
  | getAs accessor type
  | getPlace accessor
  | getPlaceAs accessor type =>
      exact accessor.log_ownPlan
  | resolve plan
  | resolveAs plan type
  | resolvePlace plan
  | access source
  | accessAs source type
  | accessPlace source
  | getPath source
  | getPathOr source fallback =>
      rfl

/- The text that a write brings along, and how it is read. -/
def WriteCall.text? :
    WriteCall → Option (BracketMode × String)
| .setWith accessor source => accessor.text? (some source)
| .assignAt source => some (.strict, source)
| .setPath source => some (.strict, source)
| _ => none

/- A write warns about its text only. -/
theorem WriteCall.log_plan
    (call : WriteCall) :
    call.plan.log = (Plan.warnings call.text?).map .warned := by
  cases call with
  | assign plan => rfl
  | set accessor
  | setBoxed accessor =>
      exact accessor.log_ownPlan
  | setWith accessor source => rfl
  | assignAt source => rfl
  | setPath source => rfl

/- A call reads from a tree, or it writes a value to it. -/
inductive Call
| read (call : ReadCall)
| write (call : WriteCall) (x : Value)

namespace Call

/- The text that a call brings along, and how it is read. -/
def text? : Call → Option (BracketMode × String)
| .read call => call.text?
| .write call _ => call.text?

/- The plan of a call. -/
def plan : Call → Read Plan
| .read call => call.plan
| .write call _ => call.plan

/- The answer of a call to a miss; a write has none. -/
def answer? : Call → Option (Option Value)
| .read call => call.answer?
| .write _ _ => none

section Logs

variable [RecordKeys]

/- Whether a call on a root succeeds, and what it logs. -/
def perform
    (call : Call)
    (root : Value) : Read Unit :=
  match call with
  | .read call => call.perform root
  | .write call x => (call.perform root x).map Update.result

/-
  The part of its plan that a call walks: a write stops in
  front of the last step.
-/
def way? : Call → Plan → Option Plan
| .read _, plan => some plan
| .write _ _, plan => plan.splitLast?.map Prod.fst

/- A call misses if a step that it walks does. -/
def Misses
    (call : Call)
    (root : Value)
    (e : PathNotFound) : Prop :=
  ∃ plan way v,
    call.plan.value = .ok plan ∧
      call.way? plan = some way ∧ way.MissesAt root v e

/- The warnings about the text that a call brings along. -/
def warnings
    (call : Call) : List Event :=
  (Plan.warnings call.text?).map .warned

omit [RecordKeys] in
/- They are what is logged while its plan is read. -/
theorem log_plan
    (call : Call) :
    call.plan.log = call.warnings := by
  cases call with
  | read call => exact call.log_plan
  | write call x => exact call.log_plan

------------------------------------------------------------
-- Walks
------------------------------------------------------------

/-
  What a call logs on its way.  A walk that does not miss is
  silent.  One that does is traced; the call fails with the
  miss, or it has an answer, which is noted.
-/
inductive Walked
    (call : Call)
    (root : Value) : List Event → Prop
| silent
    (hNone : ∀ e, ¬ call.Misses root e) :
    Walked call root []
| missed
    {e : PathNotFound}
    (hMisses : call.Misses root e)
    (hAnswer : call.answer? = none)
    (hFails :
      (call.perform root).value = .error (.notFound e)) :
    Walked call root [.missed e]
| answered
    {e : PathNotFound}
    {answer : Option Value}
    (hMisses : call.Misses root e)
    (hAnswer : call.answer? = some answer)
    (hYields : (call.perform root).value = .ok ()) :
    Walked call root [.missed e, .fellBack e answer]

variable {call : Call} {plan way : Plan} {root : Value}

/- A walk that leads nowhere is a miss of the call. -/
theorem misses_of_locate
    {e : PathNotFound}
    (hPlan : call.plan.value = .ok plan)
    (hWay : call.way? plan = some way)
    (hLocate : way.locate root = .error e) :
    call.Misses root e := by
  rcases Plan.missesAt_of_locate hLocate with ⟨v, hMisses⟩
  exact ⟨plan, way, v, hPlan, hWay, hMisses⟩

/- A call that misses walks a way that leads nowhere. -/
theorem locate_of_misses
    {e : PathNotFound}
    (hPlan : call.plan.value = .ok plan)
    (hMisses : call.Misses root e) :
    ∃ way,
      call.way? plan = some way ∧
        way.locate root = .error e := by
  rcases hMisses with ⟨other, way, v, hOther, hWay, hAt⟩
  rw [hPlan] at hOther
  rcases Except.ok.inj hOther with rfl
  exact ⟨way, hWay, Plan.locate_of_missesAt hAt⟩

/- A walk that leads to a value is silent. -/
theorem walked_of_locate
    {v : Value}
    (hPlan : call.plan.value = .ok plan)
    (hWay : call.way? plan = some way)
    (hLocate : way.locate root = .ok v) :
    call.Walked root [] := by
  refine .silent ?_
  intro e hMisses
  rcases locate_of_misses hPlan hMisses with
    ⟨other, hOther, hError⟩
  rw [hWay] at hOther
  rcases Option.some.inj hOther with rfl
  rw [hLocate] at hError
  cases hError

/- A read is silent, or it is traced and may be answered. -/
theorem walked_read
    {call : ReadCall}
    (hPlan : call.plan.value = .ok plan)
    (root : Value) :
    (read call).Walked root
      (ReadCall.follow call.type? call.answer? plan
        root).log := by
  have hPerform :
      (call.perform root).value =
        (ReadCall.follow call.type? call.answer? plan
          root).value := by
    rw [call.perform_eq, Read.andThen_of_ok hPlan]
  unfold ReadCall.follow at hPerform ⊢
  cases hLocate : plan.locate root with
  | ok v => exact walked_of_locate hPlan rfl hLocate
  | error e =>
      have hMisses : (read call).Misses root e :=
        misses_of_locate hPlan rfl hLocate
      rw [hLocate] at hPerform
      cases hAnswer : call.answer? with
      | none =>
          rw [hAnswer] at hPerform
          exact .missed hMisses hAnswer hPerform
      | some answer =>
          rw [hAnswer] at hPerform
          exact .answered hMisses hAnswer hPerform

/-
  A write is silent, or it is traced and fails.  Without a
  last step it walks nowhere.
-/
theorem walked_write
    {call : WriteCall}
    (hPlan : call.plan.value = .ok plan)
    (root x : Value) :
    (write call x).Walked root (plan.assign root x).log := by
  have hPerform :
      (call.perform root x).value =
        (plan.assign root x).value := by
    rw [call.perform_eq]
    simp [Read.thenWrite, hPlan]
  have hPlanned : (write call x).plan.value = .ok plan := hPlan
  unfold Plan.assign at hPerform ⊢
  cases hSplit : plan.splitLast? with
  | none =>
      refine .silent ?_
      intro e hMisses
      rcases locate_of_misses hPlanned hMisses with
        ⟨way, hWay, _⟩
      simp [way?, hSplit] at hWay
  | some split =>
      rcases split with ⟨front, last⟩
      have hWay : (write call x).way? plan = some front := by
        simp [way?, hSplit]
      simp only [hSplit, Plan.resolvePlace,
        Logged.value_bind, Plan.value_traced] at hPerform
      simp only [Plan.resolvePlace, Logged.log_bind,
        Plan.value_traced]
      have hSame := front.map_node_locatePlace root
      cases hPlace : front.locatePlace root with
      | ok place =>
          rw [hPlace] at hSame
          exact walked_of_locate hPlanned hWay hSame.symm
      | error e =>
          rw [hPlace] at hSame hPerform
          refine .missed ?_ rfl ?_
          · exact misses_of_locate hPlanned hWay hSame.symm
          · exact congrArg Update.result hPerform

/- A call that has no plan fails without a walk. -/
theorem perform_of_error
    {e : AccessError}
    (hPlan : call.plan.value = .error e)
    (root : Value) :
    call.perform root = ⟨.error e, call.warnings⟩ := by
  rw [← log_plan]
  cases call with
  | read call =>
      exact (call.perform_eq root).trans
        (Read.andThen_of_error hPlan _)
  | write call x =>
      have hFails : call.plan.value = .error e := hPlan
      simp only [perform, call.perform_eq, Read.thenWrite,
        Logged.bind, Logged.map, hFails, Logged.value_ofValue,
        Logged.log_ofValue, List.append_nil]
      rfl

/- A call warns while it reads its plan, and then it walks. -/
theorem exists_walked
    (call : Call)
    (root : Value) :
    ∃ events,
      (call.perform root).log = call.warnings ++ events ∧
        call.Walked root events := by
  cases hPlan : call.plan.value with
  | error e =>
      refine ⟨[], ?_, .silent ?_⟩
      · rw [perform_of_error hPlan, List.append_nil]
      · rintro miss ⟨plan, _, _, hOk, _, _⟩
        rw [hPlan] at hOk
        cases hOk
  | ok plan =>
      rw [← log_plan]
      cases call with
      | read call =>
          have hOk : call.plan.value = .ok plan := hPlan
          refine ⟨_, ?_, walked_read hOk root⟩
          simp only [perform, call.perform_eq,
            Read.andThen_of_ok hOk]
          rfl
      | write call x =>
          have hOk : call.plan.value = .ok plan := hPlan
          refine ⟨_, ?_, walked_write hOk root x⟩
          simp only [perform, call.perform_eq, Read.thenWrite,
            Logged.log_map, Logged.log_bind, hOk]
          rfl

------------------------------------------------------------
-- Logs
------------------------------------------------------------

/-
  The log of a call.  Warnings come first, and only a text
  that is read loosely has any.  What follows is said by the
  walk: nothing if no step of it misses; else the miss, and
  behind it the answer to the miss, if the call has one.
-/
structure LogFollows
    (call : Call)
    (root : Value) : Prop where
  log :
    ∃ events,
      (call.perform root).log = call.warnings ++ events ∧
        call.Walked root events
  levels : ∀ event ∈ call.warnings, event.level = .warn
  loose :
    call.warnings ≠ [] →
      ∃ source, call.text? = some (.loose, source)
  -- A miss is an answer, or it is an error.
  answered :
    ∀ e,
      call.Misses root e →
        ((call.perform root).value = .ok () ↔
          call.answer?.isSome)
  -- Without a plan nothing is walked.
  unread :
    ∀ e,
      call.plan.value = .error e →
        call.perform root = ⟨.error e, call.warnings⟩
  -- No other error than a miss is logged.
  failed :
    ∀ e,
      (call.perform root).value = .error e →
        (∀ miss, e ≠ .notFound miss) →
          (call.perform root).log = call.warnings
  write :
    ∀ write x,
      call = .write write x →
        ∀ event ∈ (call.perform root).log,
          event.level ≠ .debug

/- What is logged tells how a call ends, and the other way
   round. -/
theorem log_follows_outcome
    (call : Call)
    (root : Value) :
    call.LogFollows root := by
  rcases exists_walked call root with ⟨events, hLog, hWalked⟩
  have hLevels :
      ∀ event ∈ call.warnings, event.level = .warn := by
    intro event hMember
    rcases List.mem_map.mp hMember with ⟨warning, _, rfl⟩
    rfl
  refine ⟨⟨events, hLog, hWalked⟩, hLevels, ?_, ?_, ?_, ?_, ?_⟩
  · intro hWarns
    apply Plan.loose_of_warnings
    intro hNone
    exact hWarns (by rw [warnings, hNone, List.map_nil])
  · intro e hMisses
    cases hWalked with
    | silent hNone => exact absurd hMisses (hNone e)
    | missed _ hAnswer hFails => simp [hAnswer, hFails]
    | answered _ hAnswer hYields => simp [hAnswer, hYields]
  · intro e hPlan
    exact perform_of_error hPlan root
  · intro e hFails hOther
    cases hWalked with
    | silent hNone => rw [hLog, List.append_nil]
    | missed _ _ hMiss =>
        rw [hFails] at hMiss
        exact absurd (Except.error.inj hMiss) (hOther _)
    | answered _ _ hYields =>
        rw [hFails] at hYields
        cases hYields
  · rintro write x rfl event hMember
    rw [hLog, List.mem_append] at hMember
    rcases hMember with hWarning | hWalk
    · rw [hLevels event hWarning]
      decide
    · cases hWalked with
      | silent hNone => cases hWalk
      | missed _ _ _ =>
          rcases List.mem_singleton.mp hWalk with rfl
          simp [Event.level]
      | answered _ hAnswer _ => cases hAnswer

end Logs

/-
  A bracket that is kept in a name, the miss of that name and
  the null in its place.
-/
example :
    let root : Value := .scalar (.bool true)
    let accessor : Accessor :=
      { Accessor.bare with options := ⟨false, .loose⟩ }
    let call : Call :=
      .read (.applyWith accessor ⟨some "x]", .null, none⟩)
    (call.perform root).log.map Event.level =
      [.warn, .trace, .debug] := by
  decide +kernel

end Call

end TreePath
