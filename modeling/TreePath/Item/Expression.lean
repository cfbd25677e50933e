import TreePath.Item.Control
import TreePath.Item.Trailer
import TreePath.Item.Type

/-
  This file defines the reading of expressions.

  Key definitions include:
    * `Item.atom`
    * `Item.operand`
    * `Item.expression`
    * `Item.leading`
-/

namespace TreePath

namespace Item

open Reader

------------------------------------------------------------
-- Paths and Structs
------------------------------------------------------------

/- Read the value of a field. -/
def fieldValue
    (p : Phrases) : Reader Unit := do
  let _ ← attributes p
  let named ← member
  if !named || (← sees (Ahead.mark ":")) then
    mark ":"
    let _ ← p.expression true

/- Whether there are no more values, or all others are taken
   from a struct. -/
def endsValues
    (ts : Tokens) : Bool :=
  ts.isEmpty || Ahead.mark ".." ts

/- Read the values of fields, of which some may be taken from
   a struct. -/
def fieldValues
    (p : Phrases) : Reader Unit := do
  let read ← listed endsValues "," (fieldValue p)
  if !(← sees List.isEmpty) then
    require (isOpenList read)
    mark ".."
    if !(← sees List.isEmpty) then
      let _ ← p.expression true

/- Read a path, an expansion or a struct. -/
def pathExpression
    (p : Phrases)
    (structs : Bool) : Reader ExpressionForm := do
  let form ← anyPath p true
  if isExpandable form && (← sees Ahead.bang) then
    let braced ← expansionCall
    pure (.expansion braced)
  else if structs && (← sees (Ahead.group .brace)) then
    group .brace (fieldValues p)
    pure .other
  else
    pure .other

/- Whether an expression comes next that begins with a
   path. -/
def startsPathExpression
    (ts : Tokens) : Bool :=
  let behind := Ahead.beyond ts
  Ahead.segment ts || Ahead.mark "::" ts ||
    Ahead.mark "<" ts ||
    (Ahead.word "try" ts &&
      (Ahead.mark "!" behind || Ahead.mark "::" behind))

------------------------------------------------------------
-- Atoms
------------------------------------------------------------

/- Read a list of values, or one value and its count. -/
def listValues
    (p : Phrases) : Reader Unit := do
  if !(← sees List.isEmpty) then
    let _ ← p.expression true
    if ← markIf ";" then
      let _ ← p.expression true
    else if ← markIf "," then
      commaList (p.expression true)

/- Whether a block comes next that is run later. -/
def startsAsync
    (ts : Tokens) : Bool :=
  let behind := Ahead.beyond ts
  Ahead.word "async" ts &&
    (Ahead.group .brace behind ||
      (Ahead.word "move" behind &&
        Ahead.group .brace (Ahead.beyond behind)))

/- Read a block that is run later. -/
def asyncBlock
    (p : Phrases) : Reader Unit := do
  word "async"
  let _ ← wordIf "move"
  block p

/- Read an atom that is no range, no path and no block. -/
def otherAtom
    (p : Phrases)
    (structs : Bool) : Reader Unit := do
  if ← sees (Ahead.group .paren) then
    group .paren (commaList (p.expression true))
  else if ← sees (Ahead.oneOf jumpWords) then
    jump p structs
  else if ← sees (Ahead.group .bracket) then
    group .bracket (listValues p)
  else if ← sees (Ahead.word "let") then
    letCondition p structs
  else
    word "_"

/- Read an operand without signs in front of it and without
   what may follow it. -/
def atom
    (p : Phrases)
    (structs : Bool) : Reader ExpressionForm := do
  if ← sees Ahead.literal then
    literal
    pure .other
  else if ← sees startsAsync then
    asyncBlock p
    pure .other
  else if ← sees startsClosure then
    closure p structs
    pure .other
  else if ← sees Ahead.builtin then
    builtinCall
    pure .other
  else if ← sees startsPathExpression then
    pathExpression p structs
  else if ← sees startsControlBlock then
    controlBlock p
    pure .block
  else if ← sees (Ahead.mark "..") then
    rangeLimit p structs
    pure .range
  else
    otherAtom p structs
    pure .other

------------------------------------------------------------
-- Operands
------------------------------------------------------------

/- Whether the word for a raw place comes next. -/
def startsRaw
    (ts : Tokens) : Bool :=
  Ahead.word "raw" ts &&
    Ahead.oneOf ["mut", "const"] (Ahead.beyond ts)

/- Read the words behind the sign of a reference. -/
def referenceWords : Reader Unit := do
  if ← sees startsRaw then
    take 2
  else
    let _ ← wordIf "mut"

/- Whether a sign of one side comes next. -/
def startsSign
    (ts : Tokens) : Bool :=
  Ahead.mark "*" ts || Ahead.mark "!" ts || Ahead.mark "-" ts

/- Read an operand.  Attributes may stand in front of it, but
   not of a range. -/
def operand
    (p : Phrases)
    (structs : Bool) : Reader ExpressionForm := do
  let read ← attributes p
  if ← markIf "&" then
    referenceWords
    let _ ← p.operand structs
    pure .other
  else if ← sees startsSign then
    take 1
    let _ ← p.operand structs
    pure .other
  else
    let first ← atom p structs
    let form ← trailers p first
    require (read.isEmpty || form ≠ .range)
    pure form

------------------------------------------------------------
-- Expressions
------------------------------------------------------------

/- Read an expression. -/
def expression
    (p : Phrases)
    (structs : Bool) : Reader ExpressionForm := do
  let left ← p.operand structs
  p.operations structs .jump left

/- Whether something comes next that can follow an operand
   which ends with its block. -/
def followsBlock
    (ts : Tokens) : Bool :=
  startsPointTrailer ts || Ahead.mark "?" ts

/-
  Read an expression at the beginning of a statement.  Behind
  one that ends with its block no operations follow, unless a
  point or a question mark stands between.
-/
def leading
    (p : Phrases) : Reader ExpressionForm := do
  let _ ← attributes p
  let first ←
    if ← sees startsControlBlock then
      atom p true
    else
      p.operand true
  if first ≠ .block then
    p.operations true .jump first
  else if ← sees followsBlock then
    let form ← trailers p first
    p.operations true .jump form
  else
    pure first

end Item

end TreePath
