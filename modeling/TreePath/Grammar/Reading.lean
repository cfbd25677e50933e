import TreePath.Path.Plan
import TreePath.Grammar.Scanner

/-
  This file defines the reading of whole path texts: the
  steps before the first fault, and the plan if there is no
  fault at all.

  Key definitions include:
    * `Scanner.Run`
    * `Scanner.run`
    * `Plan.parse`
    * `Plan.parseStatic`
    * `Plan.ofText?`
-/

namespace TreePath

------------------------------------------------------------
-- Runs of a Scanner
------------------------------------------------------------

namespace Scanner

/-
  The steps that a scanner yields, the fault that stops it,
  if any, and the scanner at the end.
-/
structure Run where
  steps : List LocatedStep
  fault : Option SyntaxError
  last : Scanner

/- Put a step in front of a run. -/
def Run.cons
    (step : LocatedStep)
    (run : Run) : Run :=
  { run with steps := step :: run.steps }

/- Call a scanner until it ends or fails. -/
def run
    (s : Scanner) : Logged Warning Run :=
  match _h : s.next.value with
  | (none, after) => ⟨⟨[], none, after⟩, s.next.log⟩
  | (some (.error e), after) =>
      ⟨⟨[], some e, after⟩, s.next.log⟩
  | (some (.ok step), after) =>
      let later := run after
      ⟨later.value.cons step, s.next.log ++ later.log⟩
termination_by s.rest.length
decreasing_by
  have hstep : s.next.value.1 = some (.ok step) := by
    rw [_h]
  have hlt := length_next_lt hstep
  rw [_h] at hlt
  exact hlt

end Scanner

------------------------------------------------------------
-- Reading Plans
------------------------------------------------------------

namespace Plan

/-
  Read a plan from a text.  A fault anywhere fails the whole
  reading.
-/
def parse
    (mode : BracketMode)
    (source : String) :
    Logged Warning (Except SyntaxError Plan) :=
  let run := (Scanner.ofText mode source).run
  match run.value.fault with
  | some e => ⟨.error e, run.log⟩
  | none => ⟨.ok ⟨run.value.steps⟩, run.log⟩

/- Read a plan strictly from a text that lives for ever. -/
def parseStatic
    (source : String) :
    Logged Warning (Except SyntaxError Plan) :=
  parse .strict source

/- Read a plan strictly. -/
def ofText?
    (source : String) : Except SyntaxError Plan :=
  (parse .strict source).value

end Plan

end TreePath
