import TreePath.Path.Key

/-
  This file defines the steps of a path and steps that know
  where in a text they were read.

  Key definitions include:
    * `Step`
    * `Step.key`
    * `Step.chars`
    * `Step.render`
    * `LocatedStep`
-/

namespace TreePath

------------------------------------------------------------
-- Steps
------------------------------------------------------------

/-
  A named step asks for a field, a keyed step for an entry.
-/
inductive Step where
| named (name : String)
| keyed (key : Key)
deriving DecidableEq, Ord, Repr

namespace Step

/- The key that a step carries; a name counts as one. -/
def key : Step → Key
| .named name => .name name
| .keyed key => key

/- Whether a step was written in brackets. -/
def isKeyed : Step → Bool
| .named _ => false
| .keyed _ => true

/- The characters of a step after the first. -/
def chars : Step → List Char
| .named name => '.' :: name.toList
| .keyed key => key.chars

/- A step as it is written after another. -/
def render
    (step : Step) : String :=
  String.ofList step.chars

/- A step as a message names it, without the dot. -/
def label : Step → String
| .named name => name
| .keyed key => key.render

end Step

------------------------------------------------------------
-- Located Steps
------------------------------------------------------------

/-
  A step with the byte offset of its first character, if it
  was read from a text.
-/
structure LocatedStep where
  step : Step
  offset : Option Nat
deriving DecidableEq, Ord, Repr

namespace LocatedStep

/- A step that no text gave. -/
def ofStep
    (step : Step) : LocatedStep :=
  ⟨step, none⟩

end LocatedStep

end TreePath
