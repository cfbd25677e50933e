import TreePath.Access.Event
import TreePath.Tree.Keyed

/-
  This file defines reading along a path.

  Key definitions include:
    * `Step.resolve`
    * `Plan.walk`
    * `Plan.resolve`
-/

namespace TreePath

variable [RecordKeys]

------------------------------------------------------------
-- Single Steps
------------------------------------------------------------

/-
  The value that a step leads to.  A keyed step looks for an
  entry; a named step looks for a field, and for an entry of
  that name if there is no such field.
-/
def Step.resolve
    (step : Step)
    (v : Value) : Except StepMiss Value :=
  match step with
  | .keyed key =>
      if v.isKeyed then
        match v.entry? key with
        | some child => .ok child
        | none => .error (.on .noSuchKey v)
      else
        .error (.on .notKeyed v)
  | .named name =>
      match v.field? name with
      | some child => .ok child
      | none =>
          match v.entry? (.name name) with
          | some child => .ok child
          | none => .error (.on .noSuchField v)

------------------------------------------------------------
-- Whole Paths
------------------------------------------------------------

namespace Plan

/-
  Walk steps one after the other.  The walk knows the type of
  its root and how many steps it has taken.
-/
def walk
    (rootType : String) :
    Nat → List LocatedStep → Value →
      Except PathNotFound Value
| _, [], v => .ok v
| depth, step :: steps, v =>
    match step.step.resolve v with
    | .ok child => walk rootType (depth + 1) steps child
    | .error miss => .error ⟨step, depth, rootType, miss⟩

/- The value that a plan leads to. -/
def locate
    (plan : Plan)
    (root : Value) : Except PathNotFound Value :=
  walk root.typeName 0 plan.steps root

end Plan

/- Trace the step that missed, if one did. -/
def traced
    {α : Type}
    (found : Except PathNotFound α) :
    Logged Event (Except PathNotFound α) :=
  match found with
  | .ok _ => ⟨found, []⟩
  | .error e => ⟨found, [.missed e]⟩

/- The value that a plan leads to, with a trace of a miss. -/
def Plan.resolve
    (plan : Plan)
    (root : Value) :
    Logged Event (Except PathNotFound Value) :=
  traced (plan.locate root)

end TreePath
