import TreePath.Logged
import TreePath.Access.Miss
import TreePath.Grammar.Error
import TreePath.Tree.Inspect

/-
  This file defines the entries of the log of an access.

  Key definitions include:
    * `LogLevel`
    * `Event`
    * `Event.level`
    * `Event.message`
    * `Event.line`
-/

namespace TreePath

------------------------------------------------------------
-- Levels
------------------------------------------------------------

/- How much a log entry matters. -/
inductive LogLevel where
| warn
| debug
| trace
deriving DecidableEq, Repr

namespace LogLevel

/- The word for a level. -/
def word : LogLevel → String
| .warn => "WARN"
| .debug => "DEBUG"
| .trace => "TRACE"

end LogLevel

------------------------------------------------------------
-- Events
------------------------------------------------------------

/-
  Loose reading warns; a step that misses is traced; an
  answer in place of a missing value is noted.
-/
inductive Event where
| warned (w : Warning)
| missed (e : PathNotFound)
| fellBack (e : PathNotFound) (answer : Option Value)

namespace Event

/- The level of an event. -/
def level : Event → LogLevel
| .warned _ => .warn
| .missed _ => .trace
| .fellBack _ _ => .debug

section Wording

variable [EntryOrder]

/- The wording of an event. -/
def message : Event → String
| .warned w => w.message
| .missed e =>
    let step := e.step.step.render
    let depth := toString e.depth
    let rootType := e.rootType
    let miss := e.miss.message
    s!"step `{step}` at depth {depth} of `{rootType}` " ++
      s!"missed: {miss}"
| .fellBack e answer =>
    e.message ++ "; falling back to " ++
      Value.inspectOption answer

/- An event as a line of a log. -/
def line
    (event : Event) : String :=
  event.level.word ++ " " ++ event.message

end Wording

end Event

end TreePath
