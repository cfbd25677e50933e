import TreePath.Proofs.Access.ReadBack
import TreePath.Proofs.Tree.Frame

/-
  A write through a plan changes the tree at one location
  only: in the value that the steps before the last lead to,
  at the field or entry that the last step writes.  Of the
  code that answers keys for records it is asked that it tells
  entries apart, from one another and from the fields.

  Main statements:
    * `Plan.changedAt_assign`
-/

------------------------------------------------------------
-- Writes through a Plan
------------------------------------------------------------

namespace TreePath

namespace Plan

/-
  A write that is not refused changes the root at the target
  of the last step in the value that the others resolve to,
  and nowhere else.
-/
theorem changedAt_assign
    [RecordKeys]
    [SoundKeys]
    [SeparateKeys]
    {plan : Plan}
    {root x : Value}
    (hTyped : root.WellTyped)
    (hConsistent : root.Consistent)
    (hWritten : (plan.assign root x).value.result = .ok ()) :
    ∃ front last holder,
      plan.splitLast? = some (front, last) ∧
        (front.resolve root).value = .ok holder ∧
          root.at? (visited front.steps root) = some holder ∧
            root.ChangedAt
              (visited front.steps root ++ [last.step.target])
              x (plan.assign root x).value.node := by
  have hDone := Update.eq_done_of_result hWritten
  rcases exists_holder_of_assign hDone with
    ⟨front, last, holder, hSplit, hHolder⟩
  rw [assign_eq_done_iff_writtenAt hTyped hSplit hHolder,
    target_eq hSplit] at hDone
  refine ⟨front, last, holder, hSplit, ?_, hHolder, ?_⟩
  · unfold resolve locate
    rw [value_traced, walk_eq_ok_iff]
    exact hHolder
  · exact hDone.changedAt ⟨hTyped, hConsistent⟩

/-
  A list in a record, written at its second position.  The
  record keeps entries in a field of its own that is hidden.
-/
theorem changedAt_assign_item :
    let _ : RecordKeys := .sealed
    let number (n : Int) : Value :=
      .scalar (.integer ⟨true, .w32⟩ n)
    let elem : Shape := .scalar (.integer ⟨true, .w32⟩)
    let d : Declaration Shape :=
      ⟨"Row", "Row",
        [⟨"cells", false, .sequence .vector elem⟩,
          ⟨"extra", true, .dictionary .ordered elem⟩],
        some ⟨"extra", "extra"⟩⟩
    let root : Value :=
      .record d
        [.sequence .vector elem [number 1, number 2],
          .dictionary .ordered elem [("k", number 5)]]
    let plan := Plan.ofSteps [.named "cells", .keyed (.index 1)]
    root.isKeyed = true ∧
      root.WellTyped ∧
        root.Consistent ∧
          (plan.assign root (number 9)).value.result = .ok () ∧
            ∃ front last holder,
              plan.splitLast? = some (front, last) ∧
                (front.resolve root).value = .ok holder ∧
                  root.at? (visited front.steps root) =
                      some holder ∧
                    root.ChangedAt
                      (visited front.steps root ++
                        [last.step.target])
                      (number 9)
                      (plan.assign root
                        (number 9)).value.node := by
  intro _ number elem d root plan
  have hNumber (n : Int) : (number n).WellTyped := .scalar _
  have hTyped : root.WellTyped := by
    refine .record rfl ?_
    intro field hMem
    simp only [List.mem_cons, List.not_mem_nil, or_false]
      at hMem
    rcases hMem with rfl | rfl
    · refine .sequence trivial ?_ ?_
      · simp [number, elem, Value.type, Value.shape,
          Scalar.type]
      · simp [hNumber]
    · refine .dictionary ?_ ?_
      · simp [number, elem, Value.type, Value.shape,
          Scalar.type]
      · simp [hNumber]
  have hConsistent : root.Consistent := by
    simp [root, number, Value.Consistent,
      Value.ItemsConsistent, Value.EntriesConsistent]
  have hWritten :
      (plan.assign root (number 9)).value.result = .ok () :=
    rfl
  have := RecordKeys.sound_sealed
  have := RecordKeys.lawful_sealed
  exact
    ⟨rfl, hTyped, hConsistent, hWritten,
      changedAt_assign hTyped hConsistent hWritten⟩

/-
  Without the law it may be otherwise.  The visible field that
  a record passes a key on to is neither at the key nor around
  it, yet a write at the key changes the field.  Also, a
  record may gain an entry.
-/
theorem assign_changes_delegate :
    let number (n : Int) : Value :=
      .scalar (.integer ⟨true, .w32⟩ n)
    let elem : Shape := .scalar (.integer ⟨true, .w32⟩)
    let d : Declaration Shape :=
      ⟨"Grid", "Grid",
        [⟨"width", false, .scalar (.integer ⟨false, .w32⟩)⟩,
          ⟨"cells", false, .sequence .vector elem⟩,
          ⟨"extra", true, .dictionary .ordered elem⟩],
        some ⟨"cells", "extra"⟩⟩
    let root : Value :=
      .record d
        [.scalar (.integer ⟨false, .w32⟩ 1),
          .sequence .vector elem [number 1, number 2],
          .dictionary .ordered elem []]
    let plan := Plan.ofSteps [.keyed (.index 0)]
    let write := (plan.assign root (number 9)).value
    let next := Plan.ofSteps [.keyed (.name "new")]
    let growth := (next.assign root (number 9)).value
    write.result = .ok () ∧
      plan.target root = [.entry (.index 0)] ∧
        ¬ plan.target root <+: [.field "cells"] ∧
          ¬ [.field "cells"] <+: plan.target root ∧
            write.node.at? [.field "cells"] ≠
                root.at? [.field "cells"] ∧
              growth.result = .ok () ∧
                root.at? [.entry (.name "new")] = none ∧
                  growth.node.at? [.entry (.name "new")] =
                    some (number 9) := by
  intro number elem d root plan write next growth
  have hBefore :
      root.at? [.field "cells"] =
        some (.sequence .vector elem [number 1, number 2]) :=
    rfl
  have hAfter :
      write.node.at? [.field "cells"] =
        some (.sequence .vector elem [number 9, number 2]) :=
    rfl
  have hTarget : plan.target root = [.entry (.index 0)] := rfl
  refine ⟨rfl, hTarget, ?_, ?_, ?_, rfl, rfl, rfl⟩
  · rw [hTarget]
    decide
  · rw [hTarget]
    decide
  · rw [hBefore, hAfter]
    simp [number]

end Plan

end TreePath
