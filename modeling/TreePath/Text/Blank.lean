/-
  This file defines the characters that may stand between
  the words of a program text.

  Key definitions include:
    * `Blank.isBlank`
-/

namespace TreePath

namespace Blank

/- Blanks and breaks, and the marks of writing direction. -/
def isBlank
    (c : Char) : Bool :=
  c == ' ' || (0x09 ≤ c.toNat && c.toNat ≤ 0x0d) ||
    [0x85, 0xa0, 0x1680, 0x2028, 0x2029, 0x202f, 0x205f,
      0x3000, 0x200e, 0x200f].contains c.toNat ||
    (0x2000 ≤ c.toNat && c.toNat ≤ 0x200a)

end Blank

end TreePath
