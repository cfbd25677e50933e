import TreePath.Proofs.Access.Target
import TreePath.Proofs.Grammar.Cuts
import TreePath.Tree.Forwarding

/-
  Where a read through a plan stops.  The steps before the one
  that misses lead to the value that it misses on, and the
  text of the plan can be cut between them.

  Key definitions include:
    * `Plan.Reaches`
    * `Plan.MissesAt`

  Main statements:
    * `Plan.locate_eq_ok_iff`
    * `Plan.missesAt_of_locate`
    * `Plan.resolve_located`
-/

------------------------------------------------------------
-- Steps in Turn
------------------------------------------------------------

namespace TreePath

section Misses

variable [RecordKeys]

/- A miss tells the kind and the type of the value. -/
theorem Step.miss_eq_on
    {step : Step}
    {v : Value}
    {miss : StepMiss}
    (hMiss : step.resolve v = .error miss) :
    miss = .on miss.reason v := by
  cases step with
  | keyed key =>
      simp only [resolve] at hMiss
      split at hMiss
      · split at hMiss
        · cases hMiss
        · rcases Except.error.inj hMiss with rfl
          rfl
      · rcases Except.error.inj hMiss with rfl
        rfl
  | named name =>
      simp only [resolve] at hMiss
      split at hMiss
      · cases hMiss
      · split at hMiss
        · cases hMiss
        · rcases Except.error.inj hMiss with rfl
          rfl

namespace Plan

/-
  Steps that resolve in turn, each in what the one before it
  led to.
-/
inductive Reaches : List LocatedStep → Value → Value → Prop
| nil
    (v : Value) :
    Reaches [] v v
| cons
    {step : LocatedStep}
    {steps : List LocatedStep}
    {v child w : Value}
    (hStep : step.step.resolve v = .ok child)
    (hRest : Reaches steps child w) :
    Reaches (step :: steps) v w

/-
  A plan misses with an error at a value: the steps before the
  depth of the error lead to the value, and the step at that
  depth misses there as the error tells.
-/
structure MissesAt
    (plan : Plan)
    (root v : Value)
    (e : PathNotFound) : Prop where
  within : e.depth < plan.size
  reached : Reaches (plan.steps.take e.depth) root v
  step : plan.steps[e.depth]? = some e.step
  missed : e.step.step.resolve v = .error e.miss
  kind : e.miss.kind = v.kind
  typeName : e.miss.typeName = v.typeName
  rootType : e.rootType = root.typeName

------------------------------------------------------------
-- Walks
------------------------------------------------------------

/- A walk ends where its steps lead in turn. -/
theorem walk_eq_ok_iff_reaches
    (rootType : String)
    (depth : Nat)
    (steps : List LocatedStep)
    (v w : Value) :
    walk rootType depth steps v = .ok w ↔
      Reaches steps v w := by
  induction steps generalizing depth v with
  | nil =>
      constructor
      · intro hWalk
        rcases Except.ok.inj hWalk with rfl
        exact .nil v
      · intro hReaches
        cases hReaches with
        | nil v => rfl
  | cons step steps ih =>
      cases hStep : step.step.resolve v with
      | ok child =>
          simp only [walk, hStep, ih]
          constructor
          · intro hRest
            exact .cons hStep hRest
          · intro hReaches
            cases hReaches with
            | cons hFirst hRest =>
                rw [hStep] at hFirst
                rcases Except.ok.inj hFirst with rfl
                exact hRest
      | error miss =>
          simp only [walk, hStep]
          constructor
          · intro hError
            cases hError
          · intro hReaches
            cases hReaches with
            | cons hFirst hRest =>
                rw [hStep] at hFirst
                cases hFirst

/-
  A walk that misses has taken all steps up to the one that
  the error names.
-/
theorem exists_reaches_of_walk_eq_error
    {rootType : String}
    {depth : Nat}
    {steps : List LocatedStep}
    {v : Value}
    {e : PathNotFound}
    (hWalk : walk rootType depth steps v = .error e) :
    ∃ count w,
      e.depth = depth + count ∧
        e.rootType = rootType ∧
          Reaches (steps.take count) v w ∧
            steps[count]? = some e.step ∧
              e.step.step.resolve w = .error e.miss := by
  induction steps generalizing depth v with
  | nil => cases hWalk
  | cons step steps ih =>
      cases hStep : step.step.resolve v with
      | error miss =>
          simp only [walk, hStep] at hWalk
          rcases Except.error.inj hWalk with rfl
          exact ⟨0, v, rfl, rfl, .nil v, rfl, hStep⟩
      | ok child =>
          simp only [walk, hStep] at hWalk
          rcases ih hWalk with
            ⟨count, w, hDepth, hRoot, hReaches, hAt, hMiss⟩
          refine
            ⟨count + 1, w, ?_, hRoot, .cons hStep hReaches, ?_,
              hMiss⟩
          · rw [hDepth, Nat.add_assoc, Nat.add_comm 1]
          · rw [List.getElem?_cons_succ]
            exact hAt

/- A plan leads to the value that its steps lead to in turn. -/
theorem locate_eq_ok_iff
    {plan : Plan}
    {root v : Value} :
    plan.locate root = .ok v ↔ Reaches plan.steps root v :=
  walk_eq_ok_iff_reaches root.typeName 0 plan.steps root v

/- A plan that leads nowhere misses at some value. -/
theorem missesAt_of_locate
    {plan : Plan}
    {root : Value}
    {e : PathNotFound}
    (hLocate : plan.locate root = .error e) :
    ∃ v, plan.MissesAt root v e := by
  rcases exists_reaches_of_walk_eq_error hLocate with
    ⟨count, v, hDepth, hRoot, hReaches, hAt, hMiss⟩
  rw [Nat.zero_add] at hDepth
  subst hDepth
  have hOn := Step.miss_eq_on hMiss
  refine ⟨v, ?_, hReaches, hAt, hMiss, ?_, ?_, hRoot⟩
  · exact (List.getElem?_eq_some_iff.mp hAt).1
  · rw [hOn]
    rfl
  · rw [hOn]
    rfl

/- Steps that lead on are walked, and the walk goes on. -/
theorem walk_append_of_reaches
    {front : List LocatedStep}
    {v w : Value}
    (hReaches : Reaches front v w)
    (rootType : String)
    (depth : Nat)
    (steps : List LocatedStep) :
    walk rootType depth (front ++ steps) v =
      walk rootType (depth + front.length) steps w := by
  induction hReaches generalizing depth with
  | nil v => rfl
  | cons hStep hRest ih =>
      simp only [List.cons_append, walk, hStep, ih,
        List.length_cons, Nat.add_assoc, Nat.add_comm 1]

/- A plan that misses at some value leads nowhere. -/
theorem locate_of_missesAt
    {plan : Plan}
    {root v : Value}
    {e : PathNotFound}
    (hMisses : plan.MissesAt root v e) :
    plan.locate root = .error e := by
  rcases List.getElem?_eq_some_iff.mp hMisses.step with
    ⟨hWithin, hStep⟩
  have hSteps :
      plan.steps =
        plan.steps.take e.depth ++
          e.step :: plan.steps.drop (e.depth + 1) := by
    rw [← hStep, List.cons_getElem_drop_succ,
      List.take_append_drop]
  have hLength : (plan.steps.take e.depth).length = e.depth :=
    List.length_take_of_le (Nat.le_of_lt hWithin)
  unfold locate
  rw [hSteps, walk_append_of_reaches hMisses.reached]
  simp only [walk, hMisses.missed, hLength, Nat.zero_add,
    ← hMisses.rootType]

------------------------------------------------------------
-- Misses in a Text
------------------------------------------------------------

/-
  A plan that was read from a text leads to where its steps
  lead in turn, or it misses at one of them.  The text in
  front of that step, up to its offset, is then read as the
  steps before it, and leads to the value it misses on.
-/
theorem resolve_located
    {mode : BracketMode}
    {source : String}
    {plan : Plan}
    (hRead : (parse mode source).value = .ok plan)
    (root : Value) :
    (∃ v,
      Reaches plan.steps root v ∧
        (plan.resolve root).value = .ok v) ∨
      ∃ e v,
        (plan.resolve root).value = .error e ∧
          plan.MissesAt root v e ∧
            ∃ front later,
              source = front ++ later ∧
                e.step.offset =
                    some (Utf8.size front.toList) ∧
                  (front = "" → e.depth = 0) ∧
                    (front ≠ "" →
                      ∃ before : Plan,
                        (parse mode front).value =
                            .ok before ∧
                          before.steps =
                              plan.steps.take e.depth ∧
                            (before.resolve root).value =
                              .ok v) := by
  unfold resolve
  simp only [value_traced]
  cases hLocate : plan.locate root with
  | ok v =>
      exact Or.inl ⟨v, locate_eq_ok_iff.mp hLocate, rfl⟩
  | error e =>
      rcases missesAt_of_locate hLocate with ⟨v, hMisses⟩
      rcases exists_front_of_step hRead hMisses.step with
        ⟨front, later, hWhole, hOffset, hEmpty, hBefore⟩
      refine
        Or.inr
          ⟨e, v, rfl, hMisses, front, later, hWhole, hOffset,
            hEmpty, ?_⟩
      intro hFront
      exact
        ⟨_, hBefore hFront, rfl,
          locate_eq_ok_iff.mpr hMisses.reached⟩

end Plan

end Misses

namespace Plan

/- A group that was kept as a name misses behind two steps. -/
theorem resolve_located_demoted :
    let leaf : Value := .scalar (.bool true)
    let inner : Value :=
      .dictionary .ordered (.scalar .bool) [("k", leaf)]
    let root : Value := .object (.insert .empty "é" inner) []
    let source := "..é['k'][x].c"
    let first : List LocatedStep :=
      [⟨.named "é", some 2⟩, ⟨.keyed (.name "k"), some 4⟩]
    let missing : LocatedStep := ⟨.named "[x]", some 9⟩
    let plan : Plan :=
      ⟨first ++ [missing, ⟨.named "c", some 13⟩]⟩
    let e : PathNotFound :=
      ⟨missing, 2, root.typeName, .on .noSuchField leaf⟩
    (parse .loose source).value = .ok plan ∧
      (plan.resolve root).value = .error e ∧
        plan.MissesAt root leaf e ∧
          ∃ front later,
            source = front ++ later ∧
              Utf8.size front.toList = 9 ∧
                ∃ before : Plan,
                  (parse .loose front).value = .ok before ∧
                    before.steps = first ∧
                      (before.resolve root).value =
                        .ok leaf := by
  intro leaf inner root source first missing plan e
  have hRead : (parse .loose source).value = .ok plan := by
    rw [parse_eq_ok_iff]
    decide +kernel
  have hError : (plan.resolve root).value = .error e := rfl
  rcases resolve_located hRead root with
    ⟨v, _, hFound⟩ |
      ⟨e', v, hMissed, hMisses, front, later, hWhole, hOffset,
        hEmpty, hBefore⟩
  · rw [hError] at hFound
    cases hFound
  · rw [hError] at hMissed
    rcases Except.error.inj hMissed with rfl
    have hSize : Utf8.size front.toList = 9 :=
      (Option.some.inj hOffset).symm
    have hFront : front ≠ "" := by
      rintro rfl
      cases hSize
    rcases hBefore hFront with ⟨before, hPlan, hFirst, hLeads⟩
    have hLeaf : v = leaf := by
      have hReached := locate_eq_ok_iff.mpr hMisses.reached
      exact (Except.ok.inj hReached).symm
    subst hLeaf
    exact
      ⟨hRead, hError, hMisses, front, later, hWhole, hSize,
        before, hPlan, hFirst, hLeads⟩

end Plan

end TreePath
