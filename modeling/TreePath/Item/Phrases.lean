import TreePath.Item.Generics

/-
  This file defines what is told about the phrases of program
  texts, and the readers of those that contain each other.
  The rule of each phrase is given the readers of all of them
  and stands in a file of its own.

  Key definitions include:
    * `Item.TypeForm`
    * `Item.BoundForm`
    * `Item.ExpressionForm`
    * `Item.Precedence`
    * `Item.Phrases`
-/

namespace TreePath

namespace Item

------------------------------------------------------------
-- Forms
------------------------------------------------------------

/-
  What a type looks like, as far as the tokens around it are
  concerned: a path of one segment, a path, one bound that is
  no path, or anything else.
-/
inductive TypeForm where
| segment
| path
| bound
| other
deriving DecidableEq, Repr

/-
  A bound is a lifetime, a trait, a trait for constants, or a
  list of what is captured.
-/
inductive BoundForm where
| lifetime
| trait
| constant
| captures
deriving DecidableEq, Repr

/-
  What an expression looks like, as far as the tokens around
  it are concerned: a range, a comparison, a block or a word
  with one, the call of an expansion, or anything else.
-/
inductive ExpressionForm where
| range
| comparison
| block
| expansion (braced : Bool)
| other
deriving DecidableEq, Repr

------------------------------------------------------------
-- Precedence
------------------------------------------------------------

/- How tightly operations bind, the loosest first. -/
inductive Precedence where
| jump
| assign
| range
| or
| and
| compare
| bitOr
| bitXor
| bitAnd
| shift
| sum
| product
| cast
deriving DecidableEq, Repr

/- The place of a precedence among all. -/
def Precedence.rank : Precedence → Nat
| .jump => 0
| .assign => 1
| .range => 2
| .or => 3
| .and => 4
| .compare => 5
| .bitOr => 6
| .bitXor => 7
| .bitAnd => 8
| .shift => 9
| .sum => 10
| .product => 11
| .cast => 12

------------------------------------------------------------
-- Phrases
------------------------------------------------------------

/-
  The readers of the phrases that contain each other.

  A type may be followed by bounds behind pluses or not.  A
  bound may be a list of captures, or one for constants.  An
  expression may be a struct with its fields or not.  An
  operand has no operations behind it; operations of at least
  a precedence are read behind one.  A leading expression is
  one at the beginning of a statement, which ends behind a
  block.  A pattern tells whether it is a range with only one
  end.
-/
structure Phrases where
  type (plus : Bool) : Reader TypeForm
  bound (captures constant : Bool) : Reader BoundForm
  parameter : Reader Unit
  expression (structs : Bool) : Reader ExpressionForm
  operand (structs : Bool) : Reader ExpressionForm
  operations
    (structs : Bool)
    (least : Precedence)
    (left : ExpressionForm) : Reader ExpressionForm
  leading : Reader ExpressionForm
  pattern : Reader Bool
  statements : Reader Unit
  fields : Reader Unit
  item : Reader Unit
  imports (rooted : Bool) : Reader Unit

namespace Phrases

/- No phrase can be read. -/
def none : Phrases where
  type _ := Reader.fail
  bound _ _ := Reader.fail
  parameter := Reader.fail
  expression _ := Reader.fail
  operand _ := Reader.fail
  operations _ _ _ := Reader.fail
  leading := Reader.fail
  pattern := Reader.fail
  statements := Reader.fail
  fields := Reader.fail
  item := Reader.fail
  imports _ := Reader.fail

end Phrases

end Item

end TreePath
