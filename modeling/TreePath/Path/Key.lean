/-
  This file defines the keys of a container: positions in a
  sequence and names in a dictionary.

  Key definitions include:
    * `Key`
    * `Key.closes`
    * `Key.chars`
    * `Key.render`
-/

namespace TreePath

------------------------------------------------------------
-- Keys
------------------------------------------------------------

/-
  A key is a position or a name.  Positions come before
  names; names are ordered by their characters.
-/
inductive Key where
| index (position : UInt64)
| name (text : String)
deriving DecidableEq, Ord, Repr

namespace Key

/- The position, if the key is one. -/
def index? : Key → Option UInt64
| .index i => some i
| .name _ => none

/- The name, if the key is one. -/
def name? : Key → Option String
| .index _ => none
| .name text => some text

------------------------------------------------------------
-- Written Form
------------------------------------------------------------

/-
  `closes q cs` holds if somewhere in `cs` the quote `q`
  stands directly before a closing bracket.
-/
def closes
    (quote : Char) : List Char → Bool
| c :: d :: cs =>
    (c == quote && d == ']') || closes quote (d :: cs)
| _ => false

/-
  The quote around a written name: a single quote, unless
  that would end the name early.
-/
def quote
    (text : List Char) : Char :=
  if closes '\'' text then '"' else '\''

/- The characters of a written key. -/
def chars : Key → List Char
| .index i => '[' :: (Nat.toDigits 10 i.toNat ++ [']'])
| .name text =>
    let q := quote text.toList
    '[' :: q :: (text.toList ++ [q, ']'])

/- A key as it is written in brackets. -/
def render
    (key : Key) : String :=
  String.ofList key.chars

end Key

end TreePath
