import TreePath.Access.Error
import TreePath.Access.ResolvePlace

/-
  This file defines writing along a path.

  Key definitions include:
    * `Step.assign`
    * `Plan.assign`
    * `Write`
-/

namespace TreePath

variable [RecordKeys]

------------------------------------------------------------
-- Single Steps
------------------------------------------------------------

/-
  Write through a step.  A keyed step writes an entry and a
  named step a field; neither stands in for the other.
-/
def Step.assign
    (step : Step)
    (target x : Value) : Update AssignError :=
  match step with
  | .keyed key =>
      if target.isKeyed then
        target.setEntry key x
      else
        .refuse target (.notKeyed target.typeName)
  | .named name =>
      if target.hasFields then
        target.setField name x
      else
        .refuse target (.noFields target.typeName)

------------------------------------------------------------
-- Whole Paths
------------------------------------------------------------

/- A write: the root after it, its result and its log. -/
abbrev Write :=
  Logged Event (Update AccessError)

namespace Plan

/-
  Write at the end of a path.  All steps but the last must
  lead somewhere; nothing on the way is ever created.
-/
def assign
    (plan : Plan)
    (root x : Value) : Write :=
  match plan.splitLast? with
  | none => .ofValue (.refuse root .emptyPath)
  | some (front, last) =>
      (front.resolvePlace root).bind (fun found =>
        match found with
        | .error e => .ofValue (.refuse root (.notFound e))
        | .ok place =>
            .ofValue
              (((last.step.assign place.node x).within place)
                |>.mapError AccessError.refused))

end Plan

end TreePath
