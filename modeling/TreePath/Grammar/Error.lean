/-
  This file defines the two readings of malformed brackets
  and the faults of a path text.

  Key definitions include:
    * `BracketMode`
    * `Fault`
    * `SyntaxError`
    * `Warning`
-/

namespace TreePath

------------------------------------------------------------
-- Bracket Modes
------------------------------------------------------------

/-
  Strict reading refuses malformed brackets; loose reading
  keeps their text as a named step.
-/
inductive BracketMode where
| strict
| loose
deriving DecidableEq, Repr

------------------------------------------------------------
-- Faults
------------------------------------------------------------

/- What can be wrong with a path text. -/
inductive Fault where
| empty
| unclosedBracket
| unexpectedBracket
| invalidBracket
| indexOverflow
deriving DecidableEq, Repr

namespace Fault

/- The wording of a fault. -/
def message : Fault → String
| .empty => "the notation is empty"
| .unclosedBracket => "`[` is never closed"
| .unexpectedBracket => "unexpected `]`"
| .invalidBracket =>
    "bracket content must be an index or a quoted key"
| .indexOverflow => "index does not fit in `usize`"

end Fault

/- A fault, the byte offset where it shows, and the text. -/
structure SyntaxError where
  offset : Nat
  source : String
  fault : Fault
deriving DecidableEq, Repr

namespace SyntaxError

/- The wording of a syntax error. -/
def message
    (e : SyntaxError) : String :=
  let offset := toString e.offset
  let source := e.source
  let fault := e.fault.message
  s!"Encountered an error at offset {offset} " ++
    s!"while parsing `{source}`: {fault}"

end SyntaxError

------------------------------------------------------------
-- Warnings
------------------------------------------------------------

/- What loose reading lets pass, but not in silence. -/
inductive Warning where
| strayBracket (offset : Nat) (source : String)
| demotedBracket
    (raw : String)
    (offset : Nat)
    (source : String)
    (fault : Fault)
deriving DecidableEq, Repr

namespace Warning

/- The wording of a warning. -/
def message : Warning → String
| .strayBracket offset source =>
    s!"stray `]` at offset {offset} of `{source}` " ++
      "kept in a named step"
| .demotedBracket raw offset source fault =>
    let reason := fault.message
    s!"malformed bracket `{raw}` at offset {offset} " ++
      s!"of `{source}` kept as a named step: {reason}"

end Warning

end TreePath
