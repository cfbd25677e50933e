import TreePath.Access.OneOff
import TreePath.Proofs.Access.Target

/-
  The calls that write to a tree.  They differ only in where
  they take their plan from.

  Key definitions include:
    * `WriteCall`
    * `WriteCall.plan`
    * `WriteCall.perform`

  Main statements:
    * `WriteCall.perform_eq`
    * `WriteCall.consistent_perform`
-/

------------------------------------------------------------
-- Calls
------------------------------------------------------------

namespace TreePath

/-
  A write goes through a plan, through the path of an
  accessor, through a text that an accessor reads, or through
  a text of its own.  The path of an accessor takes values
  with or without a box, and a text is called for in two ways.
-/
inductive WriteCall
| assign (plan : Plan)
| set (accessor : Accessor)
| setBoxed (accessor : Accessor)
| setWith (accessor : Accessor) (source : String)
| assignAt (source : String)
| setPath (source : String)

variable [RecordKeys]

namespace WriteCall

omit [RecordKeys] in
/- The plan that a call writes through. -/
def plan : WriteCall → Read Plan
| .assign plan => .ofValue (.ok plan)
| .set accessor => accessor.ownPlan
| .setBoxed accessor => accessor.ownPlan
| .setWith accessor source =>
    Read.plan accessor.options.brackets source
| .assignAt source => Read.plan .strict source
| .setPath source => Read.plan .strict source

/- What a call does to a root. -/
def perform
    (call : WriteCall)
    (root x : Value) : Write :=
  match call with
  | .assign plan => plan.assign root x
  | .set accessor => accessor.set root x
  | .setBoxed accessor => accessor.setBoxed root x
  | .setWith accessor source => accessor.setWith source root x
  | .assignAt source => root.assignAt source x
  | .setPath source => root.setPath source x

/- All calls are one, once they have their plan. -/
theorem perform_eq
    (call : WriteCall)
    (root x : Value) :
    call.perform root x =
      Read.thenWrite call.plan root
        (fun plan => plan.assign root x) := by
  cases call with
  | assign plan =>
      simp [perform, WriteCall.plan, Read.thenWrite,
        Logged.bind, Logged.ofValue]
  | _ => rfl

/- A call that is not refused writes through a plan. -/
theorem exists_plan_of_perform
    {call : WriteCall}
    {root x : Value}
    (hWritten : (call.perform root x).value.result = .ok ()) :
    ∃ plan,
      call.plan.value = .ok plan ∧
        (call.perform root x).value =
          (plan.assign root x).value := by
  rw [perform_eq] at hWritten ⊢
  simp only [Read.thenWrite, Logged.value_bind] at hWritten ⊢
  cases hPlan : call.plan.value with
  | error e => simp [hPlan, Update.refuse] at hWritten
  | ok plan => exact ⟨plan, rfl, rfl⟩

/- A call writes through its plan, or refuses. -/
theorem edits_perform
    (call : WriteCall)
    (root x : Value) :
    x.Edits root (call.perform root x).value := by
  rw [perform_eq]
  simp only [Read.thenWrite, Logged.value_bind]
  cases call.plan.value with
  | error e => exact .refused root e
  | ok plan => exact Plan.edits_assign plan root x

/- Writes of consistent values keep a tree consistent. -/
theorem consistent_perform
    [SoundKeys]
    (call : WriteCall)
    {root x : Value}
    (hRoot : root.Consistent)
    (hNew : x.Consistent) :
    (call.perform root x).value.node.Consistent :=
  (edits_perform call root x).consistent hRoot hNew

end WriteCall

end TreePath
