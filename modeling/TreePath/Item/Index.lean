import TreePath.Item.Reader
import TreePath.Item.Spelling

/-
  This file defines the places of unnamed fields, and how a
  field is named.

  Key definitions include:
    * `Item.index?`
    * `Item.indexes`
    * `Item.member`
-/

namespace TreePath

namespace Item

open Reader

------------------------------------------------------------
-- Numbers
------------------------------------------------------------

/- The value of digits in a base; underscores do not count. -/
def digitsValue?
    (base : Nat)
    (cs : List Char) : Option Nat :=
  let digits := cs.filter (· != '_')
  if digits.isEmpty then none
  else
    digits.foldl (fun value c =>
      match value, Json.hexDigit? c with
      | some n, some d =>
          if d < base then some (base * n + d) else none
      | _, _ => none) (some 0)

/- The value of a whole number in any base. -/
def wholeValue? : List Char → Option Nat
| '0' :: 'x' :: cs => digitsValue? 16 cs
| '0' :: 'o' :: cs => digitsValue? 8 cs
| '0' :: 'b' :: cs => digitsValue? 2 cs
| c :: cs => if c.isDigit then digitsValue? 10 (c :: cs) else none
| [] => none

/- The first number that is no index. -/
def indexLimit : Nat :=
  Decimal.twoTo 32

/- The literal of a number that is an index: one without an
   ending, and not too great. -/
def index?
    (text : List Char) : Option Literal :=
  match wholeValue? text with
  | none => none
  | some n =>
      if n < indexLimit then some ⟨n.repr, none⟩ else none

/- Whether a number has a point or an exponent. -/
def Literal.isFraction
    (l : Literal) : Bool :=
  (fraction? l.written.toList).isSome

------------------------------------------------------------
-- Fields
------------------------------------------------------------

/- Read a name or an index, and whether it is a name. -/
def member : Reader Bool
| .name text :: ts =>
    if Ahead.isFree text then some ⟨true, [.name text], ts⟩
    else none
| .literal l :: ts =>
    match index? l.written.toList with
    | none => none
    | some l => some ⟨false, [.literal l], ts⟩
| _ => none

/- The literals of indexes with points between them. -/
def pointed : List Literal → Tokens
| [] => []
| [l] => [.literal l]
| l :: ls => .literal l :: .mark '.' false :: pointed ls

/-
  Read a number that is taken for two indexes, if one comes
  next, and whether no other index may follow.  A point at its
  end stands in front of one.
-/
def indexes : Reader Bool
| .literal l :: ts =>
    if l.isNumber && l.isFraction then
      let parts := l.written.toList.splitOn '.'
      let ended := parts.getLast? ≠ some []
      let whole := if ended then parts else parts.dropLast
      match whole.mapM index? with
      | none => none
      | some ls =>
          let last := if ended then [] else [.mark '.' false]
          some ⟨ended, pointed ls ++ last, ts⟩
    else some ⟨false, [], .literal l :: ts⟩
| ts => some ⟨false, [], ts⟩

end Item

end TreePath
