import TreePath.Access.Resolve

/-
  This file defines the way along a path to a place that can
  be written.

  Key definitions include:
    * `Step.resolvePlace`
    * `Plan.walkPlace`
    * `Plan.resolvePlace`
-/

namespace TreePath

variable [RecordKeys]

------------------------------------------------------------
-- Single Steps
------------------------------------------------------------

/-
  The place that a step leads to.  Whether a named step takes
  the field is settled by looking before the place is taken.
-/
def Step.resolvePlace
    (step : Step)
    (v : Value) : Except StepMiss Place :=
  match step with
  | .keyed key =>
      if v.isKeyed then
        match v.entryPlace? key with
        | some place => .ok place
        | none => .error (.on .noSuchKey v)
      else
        .error (.on .notKeyed v)
  | .named name =>
      let taken :=
        if (v.field? name).isSome then
          v.fieldPlace? name
        else
          v.entryPlace? (.name name)
      match taken with
      | some place => .ok place
      | none => .error (.on .noSuchField v)

------------------------------------------------------------
-- Whole Paths
------------------------------------------------------------

namespace Plan

/- Walk steps one after the other, from a place inwards. -/
def walkPlace
    (rootType : String) :
    Nat → List LocatedStep → Place →
      Except PathNotFound Place
| _, [], place => .ok place
| depth, step :: steps, place =>
    match step.step.resolvePlace place.node with
    | .ok inner =>
        walkPlace rootType (depth + 1) steps
          (place.inside inner)
    | .error miss => .error ⟨step, depth, rootType, miss⟩

/- The place that a plan leads to. -/
def locatePlace
    (plan : Plan)
    (root : Value) : Except PathNotFound Place :=
  walkPlace root.typeName 0 plan.steps (.root root)

/- The place that a plan leads to, with a trace of a miss. -/
def resolvePlace
    (plan : Plan)
    (root : Value) :
    Logged Event (Except PathNotFound Place) :=
  traced (plan.locatePlace root)

end Plan

end TreePath
