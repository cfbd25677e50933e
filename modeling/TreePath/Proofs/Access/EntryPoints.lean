import TreePath.Proofs.Access.Overwriting
import TreePath.Proofs.Grammar.Adequacy

/-
  All ways to read or write at a path text come to the same:
  through a plan or an accessor that was read from the text,
  through an accessor that is given the text, or through the
  text alone.

  Key definitions include:
    * `Read.accessor`
    * `Plan.resolveOr`
    * `Value.EntryPointsAgree`

  Main statements:
    * `Accessor.applyWith_of_plan`
    * `Value.getPath_eq`
    * `Value.entryPoints_agree`
-/

------------------------------------------------------------
-- Reads in Sequence
------------------------------------------------------------

namespace TreePath

namespace Read

variable {α β γ : Type}

/- What is there already goes straight on. -/
@[simp] theorem andThen_ofValue_ok
    (a : α)
    (next : α → Read β) :
    andThen (.ofValue (.ok a)) next = next a := by
  simp [andThen, Logged.bind, Logged.ofValue]

/- A read that fails goes no further. -/
theorem andThen_of_error
    {r : Read α}
    {e : AccessError}
    (hFails : r.value = .error e)
    (next : α → Read β) :
    andThen r next = ⟨.error e, r.log⟩ := by
  simp [andThen, Logged.bind, Logged.ofValue, hFails]

/- A read that yields a value goes on with it. -/
theorem andThen_of_ok
    {r : Read α}
    {a : α}
    (hYields : r.value = .ok a)
    (next : α → Read β) :
    andThen r next =
      ⟨(next a).value, r.log ++ (next a).log⟩ := by
  simp [andThen, Logged.bind, hYields]

/- Where a sequence of three reads is cut does not matter. -/
theorem andThen_assoc
    (r : Read α)
    (f : α → Read β)
    (g : β → Read γ) :
    andThen (andThen r f) g =
      andThen r (fun a => andThen (f a) g) := by
  cases hFirst : r.value with
  | error e => simp [andThen_of_error, hFirst]
  | ok a =>
      rw [andThen_of_ok hFirst, andThen_of_ok hFirst]
      simp only [andThen, Logged.bind, List.append_assoc]

/- A value may be mapped at once or when all is read. -/
theorem map_andThen
    (r : Read α)
    (f : α → Read β)
    (g : β → γ) :
    (andThen r f).map (Except.map g) =
      andThen r (fun a => (f a).map (Except.map g)) := by
  cases hFirst : r.value with
  | error e =>
      rw [andThen_of_error hFirst, andThen_of_error hFirst]
      rfl
  | ok a =>
      rw [andThen_of_ok hFirst, andThen_of_ok hFirst]
      rfl

/- What is done next settles what is yielded in the end. -/
theorem value_andThen_congr
    {f g : α → Read β}
    (r : Read α)
    (hNext : ∀ a, (f a).value = (g a).value) :
    (andThen r f).value = (andThen r g).value := by
  cases hFirst : r.value with
  | error e =>
      rw [andThen_of_error hFirst, andThen_of_error hFirst]
  | ok a =>
      rw [andThen_of_ok hFirst, andThen_of_ok hFirst]
      exact hNext a

/- What was mapped goes on as what it was mapped to. -/
theorem andThen_map
    (r : Read α)
    (f : α → β)
    (next : β → Read γ) :
    andThen (r.map (Except.map f)) next =
      andThen r (fun a => next (f a)) := by
  simp only [andThen, Logged.bind, Logged.map]
  cases r.value with
  | error e => rfl
  | ok a => rfl

/- The same for a write. -/
theorem thenWrite_map
    (r : Read α)
    (f : α → β)
    (root : Value)
    (next : β → Write) :
    thenWrite (r.map (Except.map f)) root next =
      thenWrite r root (fun a => next (f a)) := by
  simp only [thenWrite, Logged.bind, Logged.map]
  cases r.value with
  | error e => rfl
  | ok a => rfl

------------------------------------------------------------
-- Reads of Texts
------------------------------------------------------------

/- A fault of the text is the error of the plan. -/
theorem value_plan_of_fault
    {mode : BracketMode}
    {source : String}
    {e : SyntaxError}
    (hFault :
      (Scanner.ofText mode source).run.value.fault = some e) :
    (plan mode source).value = .error (.malformed e) := by
  simp only [plan, Plan.parse, Logged.value_mapLog, hFault]
  rfl

/- The plan of a text fails only for a fault of the text. -/
theorem malformed_of_plan
    {mode : BracketMode}
    {source : String}
    {e : AccessError}
    (hFails : (plan mode source).value = .error e) :
    ∃ fault, e = .malformed fault := by
  simp only [plan, Logged.value_mapLog] at hFails
  cases hParsed : (Plan.parse mode source).value with
  | error fault =>
      rw [hParsed] at hFails
      exact ⟨fault, (Except.error.inj hFails).symm⟩
  | ok plan =>
      rw [hParsed] at hFails
      cases hFails

/- An accessor read from a text, for use in a read or a
   write. -/
def accessor
    (source : String) : Read Accessor :=
  let parsed := (Accessor.parse source).mapLog Event.warned
  ⟨parsed.value.mapError .malformed, parsed.log⟩

/- It has the plan that is read from the text. -/
theorem accessor_eq
    (source : String) :
    accessor source =
      (plan .strict source).map
        (Except.map (fun plan =>
          ⟨some source, some plan, .missing, .standard⟩)) := by
  have hMode : AccessOptions.standard.brackets = .strict := rfl
  simp only [accessor, Accessor.parse, Accessor.parseWith,
    plan, hMode]
  cases hParsed : (Plan.parse .strict source).value with
  | error e =>
      simp [Logged.mapLog, Logged.map, hParsed,
        Except.mapError, Except.map]
  | ok plan =>
      simp [Logged.mapLog, Logged.map, hParsed,
        Except.mapError, Except.map]

/- To go on with the accessor is to go on with that plan. -/
theorem andThen_accessor
    (source : String)
    (next : Accessor → Read β) :
    andThen (accessor source) next =
      andThen (plan .strict source) (fun plan =>
        next ⟨some source, some plan, .missing, .standard⟩) := by
  rw [accessor_eq, andThen_map]

/- The same for a write. -/
theorem thenWrite_accessor
    (source : String)
    (root : Value)
    (next : Accessor → Write) :
    thenWrite (accessor source) root next =
      thenWrite (plan .strict source) root (fun plan =>
        next ⟨some source, some plan, .missing, .standard⟩) := by
  rw [accessor_eq, thenWrite_map]

end Read

------------------------------------------------------------
-- Misses and Answers
------------------------------------------------------------

section Agreement

variable [RecordKeys]

/-
  Walk a plan, and answer a miss.  Where there is no answer,
  the miss is the error.
-/
def Plan.resolveOr
    (plan : Plan)
    (root : Value)
    (answer : Option (Option Value)) : Read (Option Value) :=
  (plan.resolve root).bind (fun found =>
    match found, answer with
    | .ok v, _ => .ofValue (.ok (some v))
    | .error e, some other => Accessor.fallBack e other
    | .error e, none => .ofValue (.error (.notFound e)))

/- Without an answer a miss is an error as in any read. -/
theorem Plan.resolveOr_none
    (plan : Plan)
    (root : Value) :
    plan.resolveOr root none =
      (Read.ofWalk (plan.resolve root)).map (Except.map some) := by
  simp only [resolveOr, Read.ofWalk, resolve]
  cases plan.locate root with
  | error e => rfl
  | ok v => rfl

/- A default may stand in at once, or for a null later on. -/
theorem Plan.value_resolveOr_default
    (plan : Plan)
    (root d : Value) :
    (plan.resolveOr root (some (some d))).value =
      ((Read.andThen (plan.resolveOr root (some none))
          (fun found => .ofValue (.ok (found.getD d)))).map
        (Except.map some)).value := by
  simp only [resolveOr, resolve]
  cases plan.locate root with
  | error e => rfl
  | ok v => rfl

namespace Accessor

/-
  A strict read has no answer to a miss; any other one answers
  with a default, or with null.
-/
theorem applyWith_eq
    (a : Accessor)
    (source : Option String)
    (fallback : Fallback)
    (strict : Option Bool)
    (root : Value) :
    a.applyWith ⟨source, fallback, strict⟩ root =
      Read.andThen (a.planFor source) (fun plan =>
        plan.resolveOr root
          (if strict.getD a.options.strict then
            none
          else
            some (a.answer? fallback).join)) := by
  unfold applyWith Plan.resolveOr
  congr 1
  funext plan
  congr 1
  funext found
  cases found with
  | ok v => rfl
  | error e =>
      by_cases hStrict : strict.getD a.options.strict
      · simp only [hStrict, if_true]
      · simp only [hStrict, if_false, Bool.false_eq_true]

/- The same for an accessor that walks its own plan. -/
theorem applyWith_of_plan
    {a : Accessor}
    {plan : Plan}
    (hPlan : a.plan = some plan)
    (fallback : Fallback)
    (strict : Option Bool)
    (root : Value) :
    a.applyWith ⟨none, fallback, strict⟩ root =
      plan.resolveOr root
        (if strict.getD a.options.strict then
          none
        else
          some (a.answer? fallback).join) := by
  rw [applyWith_eq]
  simp only [planFor, ownPlan, hPlan,
    Read.andThen_ofValue_ok]

/- Strictness aside, a miss is answered by a default only. -/
theorem getWith_eq
    (a : Accessor)
    (source : Option String)
    (fallback : Fallback)
    (root : Value) :
    a.getWith source fallback root =
      Read.andThen (a.planFor source) (fun plan =>
        plan.resolveOr root (a.answer? fallback)) := by
  unfold getWith Plan.resolveOr
  congr 1
  funext plan
  congr 1
  funext found
  cases found with
  | ok v => rfl
  | error e =>
      cases a.answer? fallback with
      | none => rfl
      | some answer => rfl

end Accessor

------------------------------------------------------------
-- Texts
------------------------------------------------------------

namespace Value

/- A text that leads nowhere is answered with null. -/
theorem getPath_eq
    (root : Value)
    (source : String) :
    root.getPath source =
      Read.andThen (Read.plan .strict source) (fun plan =>
        plan.resolveOr root (some none)) := by
  unfold getPath access
  cases hPlan : (Read.plan .strict source).value with
  | error e =>
      -- A fault of the text is never taken for a miss.
      rcases Read.malformed_of_plan hPlan with ⟨fault, rfl⟩
      rw [Read.andThen_of_error hPlan,
        Read.andThen_of_error hPlan]
      simp [Logged.bind, Logged.ofValue]
  | ok plan =>
      rw [Read.andThen_of_ok hPlan, Read.andThen_of_ok hPlan]
      simp only [Plan.resolveOr, Read.ofWalk, Plan.resolve]
      cases plan.locate root with
      | error e => simp [Logged.bind, traced, Except.mapError]
      | ok v => simp [Logged.bind, traced, Except.mapError]

/-
  A text with a fault is an error for every access, whatever
  the tree, and a write leaves the tree alone.
-/
structure Reports
    (root : Value)
    (source : String)
    (e : SyntaxError) : Prop where
  access : (root.access source).value = .error (.malformed e)
  accessAs :
    ∀ type,
      (root.accessAs type source).value =
        .error (.malformed e)
  accessPlace :
    (root.accessPlace source).value = .error (.malformed e)
  assignAt :
    ∀ x,
      (root.assignAt source x).value =
        .refuse root (.malformed e)
  getPath : (root.getPath source).value = .error (.malformed e)
  getPathOr :
    ∀ d,
      (root.getPathOr source d).value = .error (.malformed e)

/-
  The ways to read and write at a text, next to each other.
  Reads agree in what they yield and in what they log, and
  writes in what they leave behind as well.  Only the logs of
  a null and of a default in its place differ.
-/
structure EntryPointsAgree
    (root : Value)
    (source : String) : Prop where
  -- Reads to which a miss is an error.
  resolve :
    Read.andThen (Read.plan .strict source) (fun plan =>
        .ofWalk (plan.resolve root)) =
      root.access source
  strict_apply :
    Read.andThen (Read.accessor source) (fun a =>
        (a.withStrict true).apply root) =
      (root.access source).map (Except.map some)
  bare_getWith :
    Accessor.bare.getWith (some source) .inherit root =
      (root.access source).map (Except.map some)
  -- Reads of a value of a type.
  resolveAs :
    ∀ type,
      Read.andThen (Read.plan .strict source) (fun plan =>
          plan.resolveAs type root) =
        root.accessAs type source
  getAs :
    ∀ type,
      Read.andThen (Read.accessor source) (fun a =>
          a.getAs type root) =
        root.accessAs type source
  -- Places that can be written.
  getPlace :
    Read.andThen (Read.accessor source) (fun a =>
        a.getPlace root) =
      root.accessPlace source
  accessPlace :
    (root.accessPlace source).map (Except.map Place.node) =
      root.access source
  -- Writes.
  assign :
    ∀ x,
      Read.thenWrite (Read.plan .strict source) root
          (fun plan => plan.assign root x) =
        root.assignAt source x
  set :
    ∀ x,
      Read.thenWrite (Read.accessor source) root (fun a =>
          a.set root x) =
        root.assignAt source x
  bare_setWith :
    ∀ x,
      Accessor.bare.setWith source root x =
        root.assignAt source x
  -- Other names for the same.
  parseStatic :
    Plan.parseStatic source = Plan.parse .strict source
  setBoxed :
    ∀ x,
      Read.thenWrite (Read.accessor source) root (fun a =>
          a.setBoxed root x) =
        root.assignAt source x
  setPath :
    ∀ x, root.setPath source x = root.assignAt source x
  -- Reads that have an answer to a miss.
  apply :
    Read.andThen (Read.accessor source) (fun a =>
        a.apply root) =
      root.getPath source
  applyWith :
    ∀ d,
      (Read.andThen (Read.accessor source) (fun a =>
          a.applyWith ⟨none, .value d, none⟩ root)).value =
        (root.getPathOr source d).value.map some
  -- Texts with a fault.
  malformed :
    ∀ e,
      (Scanner.ofText .strict source).run.value.fault =
          some e →
        root.Reports source e

/- A fault is found before the first step is walked. -/
theorem reports_of_fault
    {source : String}
    {e : SyntaxError}
    (root : Value)
    (hFault :
      (Scanner.ofText .strict source).run.value.fault =
        some e) :
    root.Reports source e := by
  have hPlan := Read.value_plan_of_fault hFault
  have hAccess :
      (root.access source).value = .error (.malformed e) := by
    unfold access
    rw [Read.andThen_of_error hPlan]
  have hPath :
      (root.getPath source).value = .error (.malformed e) := by
    rw [getPath_eq, Read.andThen_of_error hPlan]
  refine ⟨hAccess, ?_, ?_, ?_, hPath, ?_⟩
  · intro type
    unfold accessAs
    rw [Read.andThen_of_error hAccess]
  · unfold accessPlace
    rw [Read.andThen_of_error hPlan]
  · intro x
    simp [assignAt, Read.thenWrite, hPlan]
  · intro d
    unfold getPathOr
    rw [Read.andThen_of_error hPath]

/-
  All entry points are one: they walk the plan of the text,
  and differ only in the answers that they have to a miss.
-/
theorem entryPoints_agree
    (root : Value)
    (source : String) :
    root.EntryPointsAgree source where
  resolve := rfl
  strict_apply := by
    unfold access
    rw [Read.andThen_accessor, Read.map_andThen]
    congr 1
    funext plan
    rw [← Plan.resolveOr_none, Accessor.apply,
      Accessor.applyWith_of_plan rfl]
    rfl
  bare_getWith := by
    unfold access
    rw [Accessor.getWith_eq, Read.map_andThen]
    congr 1
    funext plan
    exact plan.resolveOr_none root
  resolveAs := by
    intro type
    unfold accessAs access
    rw [Read.andThen_assoc]
    rfl
  getAs := by
    intro type
    unfold accessAs access
    rw [Read.andThen_accessor, Read.andThen_assoc]
    rfl
  getPlace := by
    rw [Read.andThen_accessor]
    rfl
  accessPlace := by
    unfold accessPlace access
    rw [Read.map_andThen]
    congr 1
    funext plan
    rw [← plan.map_node_resolvePlace root]
    simp only [Read.ofWalk, Logged.map]
    cases (plan.resolvePlace root).value with
    | error e => rfl
    | ok place => rfl
  assign := by
    intro x
    rfl
  set := by
    intro x
    rw [Read.thenWrite_accessor]
    rfl
  bare_setWith := by
    intro x
    rfl
  parseStatic := rfl
  setBoxed := by
    intro x
    rw [Read.thenWrite_accessor]
    rfl
  setPath := by
    intro x
    rfl
  apply := by
    rw [getPath_eq, Read.andThen_accessor]
    congr 1
    funext plan
    rw [Accessor.apply, Accessor.applyWith_of_plan rfl]
    rfl
  applyWith := by
    intro d
    unfold getPathOr
    rw [getPath_eq, Read.andThen_assoc, Read.andThen_accessor,
      ← Logged.value_map (Except.map some), Read.map_andThen]
    apply Read.value_andThen_congr
    intro plan
    rw [Accessor.applyWith_of_plan rfl]
    exact plan.value_resolveOr_default root d
  malformed := by
    intro e hFault
    exact reports_of_fault root hFault

end Value

end Agreement

namespace Value

/-
  The bracket at the end is reported, although the step in
  front of it leads nowhere.
-/
theorem entryPoints_agree_unclosed :
    let root : Value := .scalar (.bool true)
    let source := "a["
    let e : SyntaxError := ⟨1, source, .unclosedBracket⟩
    let run := (Scanner.ofText .strict source).run.value
    run.steps = [⟨.named "a", some 0⟩] ∧
      run.fault = some e ∧
        (Step.named "a").resolve root =
            .error (.on .noSuchField root) ∧
          root.Reports source e := by
  intro root source e run
  have hStep :
      (Scanner.ofText .strict source).next.value =
        (some (.ok ⟨.named "a", some 0⟩),
          ⟨source, .strict, 1, ['['], .running⟩) := by
    decide
  have hLast :
      (Scanner.mk source .strict 1 ['['] .running).next.value =
        (some (.error e), ⟨source, .strict, 2, [], .done⟩) := by
    decide
  have hRun :=
    congrArg Logged.value (Scanner.run_of_step hStep)
  rw [Scanner.run_of_fault hLast] at hRun
  have hFault : run.fault = some e := by
    rw [show run = _ from hRun]
    rfl
  refine ⟨?_, hFault, rfl, ?_⟩
  · rw [show run = _ from hRun]
    rfl
  · exact (entryPoints_agree root source).malformed e hFault

end Value

end TreePath
