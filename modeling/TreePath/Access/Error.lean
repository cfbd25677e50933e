import TreePath.Access.Miss
import TreePath.Grammar.Error
import TreePath.Tree.Update

/-
  This file defines the errors of an access.

  Key definitions include:
    * `AccessError`
    * `AccessError.message`
-/

namespace TreePath

------------------------------------------------------------
-- Errors
------------------------------------------------------------

/-
  A path text may be malformed, a path may lead nowhere or be
  empty, a write may be refused, and a value may be of
  another type than the one asked for.
-/
inductive AccessError where
| malformed (e : SyntaxError)
| notFound (e : PathNotFound)
| emptyPath
| refused (e : AssignError)
| invalidDowncast (expected found : String)
deriving DecidableEq, Repr

namespace AccessError

/- The wording of an error. -/
def message : AccessError → String
| .malformed e => e.message
| .notFound e => e.message
| .emptyPath => "cannot assign through an empty path"
| .refused e => e.message
| .invalidDowncast expected found =>
    "can't downcast result of access: " ++
      s!"expected `{expected}`, found `{found}`"

end AccessError

end TreePath
