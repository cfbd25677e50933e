import TreePath.Proofs.Access.EntryPoints
import TreePath.Proofs.Grammar.Cuts

/-
  The two ways to read through an accessor.  They walk the
  same plan, and differ only in what they make of a miss: one
  asks for a default, and the other for strictness first.

  Key definitions include:
    * `Fallback.over`
    * `Accessor.chosenPlan`
    * `Accessor.MeetsMiss`

  Main statements:
    * `Accessor.getWith_withStrict`
    * `Accessor.reads_differ_on_misses`
-/

------------------------------------------------------------
-- Defaults in Force
------------------------------------------------------------

namespace TreePath

/-
  The default that a call goes by: the one it brings along, or
  the one of the accessor if it brings none.
-/
def Fallback.over
    (own : Default) : Fallback → Default
| .inherit => own
| .null => .null
| .value v => .value v

/- What a default puts in the place of a missing value. -/
def Default.answer? : Default → Option (Option Value)
| .missing => none
| .null => some none
| .value v => some (some v)

/- An accessor answers with the default in force. -/
theorem Accessor.answer?_eq
    (a : Accessor)
    (fallback : Fallback) :
    a.answer? fallback =
      (fallback.over a.fallback).answer? := by
  cases fallback with
  | inherit =>
      simp only [answer?, Fallback.over]
      cases a.fallback with
      | _ => rfl
  | _ => rfl

------------------------------------------------------------
-- Walks with an Answer
------------------------------------------------------------

section Reads

variable [RecordKeys]

/- What a walk that misses comes to. -/
theorem Plan.value_resolveOr_of_miss
    {plan : Plan}
    {root : Value}
    {e : PathNotFound}
    (hMiss : (plan.resolve root).value = .error e)
    (answer : Option (Option Value)) :
    (plan.resolveOr root answer).value =
      match answer with
      | some other => .ok other
      | none => .error (.notFound e) := by
  simp only [resolve, value_traced] at hMiss
  simp only [resolveOr, resolve, hMiss, traced]
  cases answer with
  | none => rfl
  | some other => rfl

/- A walk that ends somewhere needs no answer. -/
theorem Plan.resolveOr_of_found
    {plan : Plan}
    {root v : Value}
    (hFound : (plan.resolve root).value = .ok v)
    (answer : Option (Option Value)) :
    plan.resolveOr root answer = .ofValue (.ok (some v)) := by
  simp only [resolve, value_traced] at hFound
  simp only [resolveOr, resolve, hFound, traced]
  rfl

------------------------------------------------------------
-- Plans in Force
------------------------------------------------------------

namespace Accessor

/-
  The plan that a call walks: that of its text, read in the
  mode of the accessor, or else the accessor's own.  An
  accessor without a plan is one of an empty text.
-/
def chosenPlan
    (a : Accessor) : Option String → Except SyntaxError Plan
| some source => (Plan.parse a.options.brackets source).value
| none =>
    match a.plan with
    | some plan => .ok plan
    | none => .error ⟨0, "", .empty⟩

omit [RecordKeys] in
/- A read has that plan to walk, or its fault to report. -/
theorem value_planFor
    (a : Accessor)
    (source : Option String) :
    (a.planFor source).value =
      (a.chosenPlan source).mapError .malformed := by
  cases source with
  | some source => rfl
  | none =>
      simp only [planFor, ownPlan, chosenPlan]
      cases a.plan with
      | none => rfl
      | some plan => rfl

------------------------------------------------------------
-- Misses
------------------------------------------------------------

/-
  What the two reads make of a miss, given the default and the
  strictness in force.  A default answers for the first, and a
  null counts as one; without any it fails.  The second fails
  if it is strict, and otherwise answers as the first does, or
  with null where that one fails.
-/
structure MeetsMiss
    (default : Default)
    (strict : Bool)
    (e : PathNotFound)
    (get apply : Read (Option Value)) : Prop where
  get_value :
    ∀ v, default = .value v → get.value = .ok (some v)
  get_null : default = .null → get.value = .ok none
  get_missing :
    get.value = .error (.notFound e) ↔ default = .missing
  apply_strict :
    strict = true → apply.value = .error (.notFound e)
  apply_answered :
    strict = false →
      ∀ answer, get.value = .ok answer → apply = get
  apply_unanswered :
    strict = false →
      ∀ e', get.value = .error e' → apply.value = .ok none

/-
  A default that answers does so for both reads, unless the
  second is strict.
-/
theorem meetsMiss_of_plan
    {r : Read Plan}
    {plan : Plan}
    {root : Value}
    {e : PathNotFound}
    (hPlan : r.value = .ok plan)
    (hMiss : (plan.resolve root).value = .error e)
    (default : Default)
    (strict : Bool) :
    MeetsMiss default strict e
      (Read.andThen r (fun plan =>
        plan.resolveOr root default.answer?))
      (Read.andThen r (fun plan =>
        plan.resolveOr root
          (if strict then none
          else some default.answer?.join))) := by
  have hValue := Plan.value_resolveOr_of_miss hMiss
  constructor
  case get_value =>
    rintro v rfl
    simp only [Read.andThen_of_ok hPlan, hValue,
      Default.answer?]
  case get_null =>
    rintro rfl
    simp only [Read.andThen_of_ok hPlan, hValue,
      Default.answer?]
  case get_missing =>
    simp only [Read.andThen_of_ok hPlan, hValue]
    cases default with
    | missing => simp [Default.answer?]
    | null => simp [Default.answer?]
    | value v => simp [Default.answer?]
  case apply_strict =>
    rintro rfl
    simp only [Read.andThen_of_ok hPlan, hValue, if_true]
  case apply_answered =>
    rintro rfl answer hAnswer
    -- The first read fails unless its default is an answer.
    cases default with
    | missing =>
        simp only [Read.andThen_of_ok hPlan, hValue,
          Default.answer?] at hAnswer
        cases hAnswer
    | null => rfl
    | value v => rfl
  case apply_unanswered =>
    rintro rfl e' hFails
    cases default with
    | missing =>
        simp only [Read.andThen_of_ok hPlan, hValue]
        rfl
    | null =>
        simp only [Read.andThen_of_ok hPlan, hValue,
          Default.answer?] at hFails
        cases hFails
    | value v =>
        simp only [Read.andThen_of_ok hPlan, hValue,
          Default.answer?] at hFails
        cases hFails

------------------------------------------------------------
-- Both Reads
------------------------------------------------------------

/- Strictness is not asked for by the first read. -/
theorem getWith_withStrict
    (a : Accessor)
    (strict : Bool)
    (source : Option String)
    (fallback : Fallback)
    (root : Value) :
    (a.withStrict strict).getWith source fallback root =
      a.getWith source fallback root := by
  cases source with
  | none => rfl
  | some source => rfl

/-
  Both reads fail alike if there is no plan to walk, whatever
  the tree, and yield the value that the plan leads to, if
  there is one.  Only a miss tells them apart.
-/
theorem reads_differ_on_misses
    (a : Accessor)
    (source : Option String)
    (fallback : Fallback)
    (strict : Option Bool)
    (root : Value) :
    let get := a.getWith source fallback root
    let apply := a.applyWith ⟨source, fallback, strict⟩ root
    (∀ e,
        a.chosenPlan source = .error e →
          get.value = .error (.malformed e) ∧ apply = get) ∧
      (∀ plan,
        a.chosenPlan source = .ok plan →
          (∀ v,
            (plan.resolve root).value = .ok v →
              get.value = .ok (some v) ∧ apply = get) ∧
            ∀ e,
              (plan.resolve root).value = .error e →
                MeetsMiss (fallback.over a.fallback)
                  (strict.getD a.options.strict) e get
                  apply) ∧
        ∀ other,
          (a.withStrict other).getWith source fallback root =
            get := by
  intro get apply
  have hGet : get = _ := getWith_eq a source fallback root
  have hApply : apply = _ :=
    applyWith_eq a source fallback strict root
  have hValue := value_planFor a source
  refine ⟨?_, ?_, ?_⟩
  · intro e hFault
    have hFails :
        (a.planFor source).value = .error (.malformed e) := by
      rw [hValue, hFault]
      rfl
    rw [hApply, hGet, Read.andThen_of_error hFails,
      Read.andThen_of_error hFails]
    exact ⟨rfl, rfl⟩
  · intro plan hChosen
    have hPlan : (a.planFor source).value = .ok plan := by
      rw [hValue, hChosen]
      rfl
    refine ⟨?_, ?_⟩
    · intro v hFound
      rw [hApply, hGet, Read.andThen_of_ok hPlan,
        Read.andThen_of_ok hPlan]
      simp only [Plan.resolveOr_of_found hFound, Logged.ofValue,
        and_self]
    · intro e hMiss
      rw [hApply, hGet, answer?_eq]
      exact meetsMiss_of_plan hPlan hMiss _ _
  · intro other
    exact getWith_withStrict a other source fallback root

end Accessor

end Reads

namespace Accessor

/-
  A null default is no missing one: it answers for a read that
  is not strict, and a call without a plan asks for neither.
-/
theorem reads_differ_on_misses_null :
    let leaf : Value := .scalar (.bool true)
    let plan := Plan.ofSteps [.named "a"]
    let a := (ofPlan plan).withNullDefault
    let e : PathNotFound :=
      ⟨.ofStep (.named "a"), 0, leaf.typeName,
        .on .noSuchField leaf⟩
    let tree : Value :=
      .dictionary .ordered (.scalar .bool) [("k", leaf)]
    let empty : SyntaxError := ⟨0, "", .empty⟩
    (plan.resolve leaf).value = .error e ∧
      (a.getWith none .inherit leaf).value = .ok none ∧
        a.applyWith ⟨none, .inherit, none⟩ leaf =
            a.getWith none .inherit leaf ∧
          (a.applyWith ⟨none, .inherit, some true⟩ leaf).value =
              .error (.notFound e) ∧
            (a.getWith (some "['k']") .null tree).value =
                .ok (some leaf) ∧
              bare.chosenPlan none = .error empty ∧
                (bare.getWith none (.value leaf) tree).value =
                  .error (.malformed empty) := by
  intro leaf plan a e tree empty
  have hMiss : (plan.resolve leaf).value = .error e := rfl
  have hRead :
      a.chosenPlan (some "['k']") =
        .ok ⟨[⟨.keyed (.name "k"), some 0⟩]⟩ := by
    rw [chosenPlan, Plan.parse_eq_ok_iff]
    decide +kernel
  rcases reads_differ_on_misses a none .inherit none leaf with
    ⟨_, hOwn, _⟩
  rcases
      reads_differ_on_misses a none .inherit (some true) leaf
    with ⟨_, hStrict, _⟩
  rcases
      reads_differ_on_misses a (some "['k']") .null none tree
    with ⟨_, hText, _⟩
  rcases
      reads_differ_on_misses bare none (.value leaf) none tree
    with ⟨hBare, _, _⟩
  have hMeets := (hOwn plan rfl).2 e hMiss
  have hNull := hMeets.get_null rfl
  refine
    ⟨hMiss, hNull, hMeets.apply_answered rfl none hNull, ?_, ?_,
      rfl, (hBare empty rfl).1⟩
  · exact ((hStrict plan rfl).2 e hMiss).apply_strict rfl
  · exact ((hText _ hRead).1 leaf rfl).1

end Accessor

end TreePath
