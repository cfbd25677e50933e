/-
  This file defines sets of characters that are given as
  ranges of code points.

  Key definitions include:
    * `CodePoints.contains`
-/

namespace TreePath

namespace CodePoints

/- Whether a character lies in one of some ranges; the ends
   of a range belong to it. -/
def contains
    (ranges : List (Nat × Nat))
    (c : Char) : Bool :=
  ranges.any (fun r => r.1 ≤ c.toNat && c.toNat ≤ r.2)

end CodePoints

end TreePath
