/-
  This file defines the length of a text in UTF-8 bytes, the
  unit in which offsets are counted.

  Key definitions include:
    * `Utf8.size`
-/

namespace TreePath

namespace Utf8

------------------------------------------------------------
-- Byte Length
------------------------------------------------------------

/- The number of bytes that the characters take. -/
def size : List Char → Nat
| [] => 0
| c :: cs => c.utf8Size + size cs

@[simp] theorem size_nil : size [] = 0 :=
  rfl

@[simp] theorem size_cons
    (c : Char)
    (cs : List Char) :
    size (c :: cs) = c.utf8Size + size cs :=
  rfl

/- Lengths of adjacent texts add up. -/
theorem size_append
    (cs ds : List Char) :
    size (cs ++ ds) = size cs + size ds := by
  induction cs with
  | nil => simp
  | cons c cs ih => simp [ih, Nat.add_assoc]

/- Every character takes at least one byte. -/
theorem length_le_size
    (cs : List Char) :
    cs.length ≤ size cs := by
  induction cs with
  | nil => simp
  | cons c cs ih =>
      have hc : 0 < c.utf8Size := Char.utf8Size_pos c
      simp
      omega

end Utf8

end TreePath
