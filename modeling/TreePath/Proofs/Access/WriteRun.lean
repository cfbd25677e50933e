import TreePath.Proofs.Access.Refusal

/-
  Writes one after another.  Whichever of them are refused,
  the root stays well typed and keeps its type.

  Key definitions include:
    * `Value.after`

  Main statements:
    * `WriteCall.wellTyped_perform`
    * `Value.wellTyped_run`
    * `Value.wellTyped_after`
-/

------------------------------------------------------------
-- Runs of Writes
------------------------------------------------------------

namespace TreePath

section Runs

variable [RecordKeys]

/- One write leaves a well-typed root of the same type. -/
theorem WriteCall.wellTyped_perform
    [SoundKeys]
    (call : WriteCall)
    {root x : Value}
    (hRoot : root.WellTyped)
    (hNew : x.WellTyped) :
    (call.perform root x).value.node.WellTyped ∧
      (call.perform root x).value.node.shape = root.shape := by
  have hEdits := edits_perform call root x
  exact
    ⟨(hEdits.standsFor hRoot hNew).wellTyped,
      hEdits.shape_node⟩

namespace Value

/- The root after writes, some of which may be refused. -/
def after
    (root : Value) : List (WriteCall × Value) → Value
| [] => root
| (call, x) :: writes =>
    (call.perform root x).value.node.after writes

variable [SoundKeys]

/- What one write keeps, all writes keep. -/
theorem wellTyped_run
    {root : Value}
    {writes : List (WriteCall × Value)}
    (hRoot : root.WellTyped)
    (hNew : ∀ write ∈ writes, write.2.WellTyped) :
    (root.after writes).WellTyped ∧
      (root.after writes).shape = root.shape := by
  induction writes generalizing root with
  | nil => exact ⟨hRoot, rfl⟩
  | cons write writes ih =>
      rcases write with ⟨call, x⟩
      have hFirst : x.WellTyped := by
        apply hNew (call, x)
        exact List.mem_cons_self
      have hRest : ∀ write ∈ writes, write.2.WellTyped := by
        intro write hMem
        exact hNew write (List.mem_cons_of_mem _ hMem)
      rcases call.wellTyped_perform hRoot hFirst with
        ⟨hStep, hShape⟩
      rcases ih hStep hRest with ⟨hRun, hSame⟩
      exact ⟨hRun, hSame.trans hShape⟩

/-
  From a well-typed root on, writes of well-typed values lead
  to well-typed roots of its type, at all times.
-/
theorem wellTyped_after
    {root : Value}
    {writes : List (WriteCall × Value)}
    (hRoot : root.WellTyped)
    (hNew : ∀ write ∈ writes, write.2.WellTyped)
    (time : Nat) :
    (root.after (writes.take time)).WellTyped ∧
      (root.after (writes.take time)).shape = root.shape := by
  have hSoFar :
      ∀ write ∈ writes.take time, write.2.WellTyped := by
    intro write hMem
    exact hNew write (List.mem_of_mem_take hMem)
  exact wellTyped_run hRoot hSoFar

end Value

end Runs

namespace Value

/-
  An empty dictionary refuses a value of another type than
  its own; one of its type goes in.
-/
theorem wellTyped_after_insertions :
    let number (n : Int) : Value :=
      .scalar (.integer ⟨true, .w32⟩ n)
    let elem : Shape := .scalar (.integer ⟨true, .w32⟩)
    let scores (entries : List (String × Value)) : Value :=
      .dictionary .ordered elem entries
    let root : Value :=
      .object (.insert .empty "scores" (scores [])) []
    let plan (name : String) : WriteCall :=
      .assign (.ofSteps [.named "scores", .keyed (.name name)])
    let writes :=
      [(plan "a", .scalar (.bool true)), (plan "b", number 5)]
    root.WellTyped ∧
      (∀ write ∈ writes, write.2.WellTyped) ∧
        root.after (writes.take 1) = root ∧
          root.after (writes.take 2) =
            .object
              (.insert .empty "scores"
                (scores [("b", number 5)])) [] ∧
            (root.after (writes.take 2)).WellTyped ∧
              (root.after (writes.take 2)).shape =
                root.shape := by
  intro number elem scores root plan writes
  have hScores : (scores []).WellTyped := by
    refine .dictionary ?_ ?_
    · simp
    · simp
  have hRoot : root.WellTyped := by
    refine .object ?_ ?_
    · intro item hMem
      rcases Attributes.mem_items_insert hMem with rfl | hOld
      · exact hScores
      · cases hOld
    · simp
  have hNew : ∀ write ∈ writes, write.2.WellTyped := by
    intro write hMem
    simp only [writes, List.mem_cons, List.not_mem_nil,
      or_false] at hMem
    rcases hMem with rfl | rfl
    · exact .scalar _
    · exact .scalar _
  exact ⟨hRoot, hNew, rfl, rfl, wellTyped_after hRoot hNew 2⟩

end Value

end TreePath
