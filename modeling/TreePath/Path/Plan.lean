import TreePath.Path.Step

/-
  This file defines plans, the paths that accesses walk, and
  their written form.

  Key definitions include:
    * `Plan`
    * `Plan.ofSteps`
    * `Plan.concat`
    * `Plan.splitLast?`
    * `Plan.render`
-/

namespace TreePath

------------------------------------------------------------
-- Plans
------------------------------------------------------------

/-
  A plan is a list of steps, walked from the root of a tree.
  Plans are ordered as words over their located steps.
-/
structure Plan where
  steps : List LocatedStep
deriving DecidableEq, Ord, Repr

namespace Plan

/- The plan that stays at the root. -/
def empty : Plan :=
  ⟨[]⟩

/- A plan of steps that no text gave. -/
def ofSteps
    (steps : List Step) : Plan :=
  ⟨steps.map LocatedStep.ofStep⟩

/- The number of steps. -/
def size
    (plan : Plan) : Nat :=
  plan.steps.length

/- The steps without their places in a text. -/
def path
    (plan : Plan) : List Step :=
  plan.steps.map LocatedStep.step

/- Walk one plan and then another. -/
def concat
    (first second : Plan) : Plan :=
  ⟨first.steps ++ second.steps⟩

/- The steps before the last, and the last. -/
def splitLast?
    (plan : Plan) : Option (Plan × LocatedStep) :=
  match plan.steps.getLast? with
  | none => none
  | some last => some (⟨plan.steps.dropLast⟩, last)

------------------------------------------------------------
-- Written Form
------------------------------------------------------------

/-
  The characters of a path: a name at the front is written
  without a dot.
-/
def charsOf : List Step → List Char
| [] => []
| .named name :: steps =>
    name.toList ++ steps.flatMap Step.chars
| step :: steps => step.chars ++ steps.flatMap Step.chars

/- A plan as text. -/
def render
    (plan : Plan) : String :=
  String.ofList (charsOf plan.path)

end Plan

end TreePath
