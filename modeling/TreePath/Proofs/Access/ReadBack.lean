import TreePath.Proofs.Access.WriteCall
import TreePath.Proofs.Tree.Positional

/-
  What was written is read back.  A write does not change
  which fields and entries the steps before it stand for.  Of
  the code that answers keys for records it is asked that it
  finds what was put and written.

  Main statements:
    * `Plan.visited_put`
    * `Plan.locate_of_assign`
    * `WriteCall.resolve_perform`
-/

------------------------------------------------------------
-- Selectors after a Write
------------------------------------------------------------

namespace TreePath

section Reading

variable [RecordKeys]

/-
  To replace a child does not change what a step selects, as
  no field comes or goes.
-/
theorem Step.selector_put
    {v x : Value}
    {selector : Selector}
    {place : Place}
    (hConsistent : v.Consistent)
    (hPlace : v.childPlace? selector = some place)
    (hType : x.type = place.node.type)
    (step : Step) :
    step.selector (place.put x) = step.selector v := by
  cases step with
  | keyed key => rfl
  | named name =>
      simp only [Step.selector]
      rw [Value.isSome_field?_put hConsistent hPlace hType]

/- A step reads where it writes, once something is there. -/
theorem Step.selector_eq_target
    {step : Step}
    {v child : Value}
    (hChild : v.child? step.target = some child) :
    step.selector v = step.target := by
  cases step with
  | keyed key => rfl
  | named name =>
      have hField : v.field? name = some child := hChild
      simp [selector, target, hField]

variable [SoundKeys] [ReadBackKeys]

namespace Plan

/- To put a value where steps lead does not change what they
   visit. -/
theorem visited_put
    {steps : List LocatedStep}
    {v x : Value}
    {place : Place}
    (hConsistent : v.Consistent)
    (hPlace : v.placeAt? (visited steps v) = some place)
    (hType : x.type = place.node.type) :
    visited steps (place.put x) = visited steps v := by
  induction steps generalizing v place with
  | nil => rfl
  | cons step steps ih =>
      rcases child?_of_at?_visited
          (Value.at?_of_placeAt? hPlace) with
        ⟨child, hChild, _⟩
      rw [visited_cons hChild] at hPlace ⊢
      rcases Value.placeAt?_cons_eq_some_iff.mp hPlace with
        ⟨outer, inner, hOuter, hInner, rfl⟩
      have hSame := Value.child?_of_childPlace? hOuter
      rw [hChild] at hSame
      rcases Option.some.inj hSame with rfl
      have hLies := Value.liesIn_of_childPlace? hOuter
      have hKept :=
        (Value.liesIn_of_placeAt? hInner).type_put hType
      have hSelector :=
        Step.selector_put hConsistent hOuter hKept step.step
      have hAfter := Value.child?_put hConsistent hOuter hKept
      rw [← hSelector] at hAfter
      have hVisited := visited_cons hAfter steps
      rw [hSelector,
        ih (hLies.consistent_node hConsistent) hInner hType]
        at hVisited
      exact hVisited

/-
  After a write the plan leads to what was written.  The
  steps before the last visit the values that they visited,
  and the last reads where it wrote.
-/
theorem locate_of_assign
    {plan : Plan}
    {root x after : Value}
    (hRoot : root.Consistent)
    (hDone : (plan.assign root x).value = .done after) :
    plan.locate after = .ok x := by
  rcases assign_eq_done_iff.mp hDone with
    ⟨front, last, place, inner, hSplit, hPlace, hWrites, rfl⟩
  have hNode :=
    (Value.liesIn_of_placeAt? hPlace).consistent_node hRoot
  have hType := Value.type_of_shape hWrites.shape_eq
  have hVisited := visited_put hRoot hPlace hType
  have hAbove := Value.at?_put hRoot hPlace hType
  have hChild := hWrites.child?_self hNode
  unfold locate
  rw [walk_eq_ok_iff, steps_of_splitLast? hSplit]
  rw [← hVisited] at hAbove
  rw [visited_append hAbove, Value.at?_append, hAbove,
    visited_singleton, Step.selector_eq_target hChild]
  simpa using hChild

end Plan

------------------------------------------------------------
-- Calls
------------------------------------------------------------

/-
  Whichever call writes a value, a read through the plan of
  the call yields exactly that value.
-/
theorem WriteCall.resolve_perform
    {call : WriteCall}
    {root x : Value}
    (hRoot : root.Consistent)
    (hWritten : (call.perform root x).value.result = .ok ()) :
    ∃ plan,
      call.plan.value = .ok plan ∧
        (plan.resolve (call.perform root x).value.node).value =
          .ok x := by
  rcases WriteCall.exists_plan_of_perform hWritten with
    ⟨plan, hPlan, hSame⟩
  rw [hSame] at hWritten ⊢
  refine ⟨plan, hPlan, ?_⟩
  unfold Plan.resolve
  rw [Plan.value_traced]
  exact
    Plan.locate_of_assign hRoot
      (Update.eq_done_of_result hWritten)

end Reading

/-
  An attribute is created beside an entry of its name, and a
  coordinate of a point is written by its position.
-/
theorem WriteCall.resolve_perform_created :
    let _ : RecordKeys := .positional
    let inner : Value :=
      .object .empty [("a", .scalar (.bool false))]
    let number (n : Int) : Value :=
      .scalar (.integer ⟨true, .w32⟩ n)
    let elem : Shape := .scalar (.integer ⟨true, .w32⟩)
    let d : Declaration Shape :=
      ⟨"Point", "Point",
        [⟨"x", false, elem⟩, ⟨"y", false, elem⟩], none⟩
    let point := Value.record d [number 1, number 2]
    let root : Value :=
      .object
        (.insert (.insert .empty "box" inner) "at" point) []
    let set (steps : List Step) : WriteCall :=
      .set (.ofPlan (.ofSteps steps))
    let call := set [.named "box", .named "a"]
    let next := set [.named "at", .keyed (.index 0)]
    let x : Value := .scalar (.bool true)
    root.Consistent ∧
      ((call.perform root x).value.result = .ok () ∧
        ∃ plan,
          call.plan.value = .ok plan ∧
            (plan.resolve
              (call.perform root x).value.node).value =
                .ok x) ∧
        (next.perform root (number 7)).value.result = .ok () ∧
          ∃ plan,
            next.plan.value = .ok plan ∧
              (plan.resolve
                (next.perform root
                  (number 7)).value.node).value =
                .ok (number 7) := by
  intro _ inner number elem d point root set call next x
  have hInner : inner.Consistent := by
    rw [Value.consistent_object_iff]
    refine ⟨Attributes.consistent_empty, ?_, ?_⟩
    · simp [Attributes.empty]
    · simp [Value.Consistent]
  have hPoint : point.Consistent := by
    simp [point, number, Value.Consistent,
      Value.ItemsConsistent]
  have hBox : (Attributes.insert .empty "box" inner).Consistent :=
    Attributes.consistent_insert Attributes.consistent_empty
      "box" inner
  have hRoot : root.Consistent := by
    rw [Value.consistent_object_iff]
    refine ⟨?_, ?_, ?_⟩
    · exact Attributes.consistent_insert hBox "at" point
    · intro v hMem
      rcases Attributes.mem_items_insert hMem with rfl | hOld
      · exact hPoint
      · rcases Attributes.mem_items_insert hOld with rfl | hNone
        · exact hInner
        · cases hNone
    · simp
  have hWritten : (call.perform root x).value.result = .ok () :=
    rfl
  have hPlaced :
      (next.perform root (number 7)).value.result = .ok () :=
    rfl
  have := RecordKeys.sound_positional
  have := RecordKeys.rewriting_positional
  exact
    ⟨hRoot, ⟨hWritten, resolve_perform hRoot hWritten⟩,
      hPlaced, resolve_perform hRoot hPlaced⟩

end TreePath
