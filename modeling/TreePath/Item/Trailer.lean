import TreePath.Item.Index
import TreePath.Item.Path

/-
  This file defines the reading of what may follow an operand:
  calls, fields, methods, places in a list and question marks.

  Key definitions include:
    * `Item.callArguments`
    * `Item.trailers`
-/

namespace TreePath

namespace Item

open Reader

/- Read the arguments of a call. -/
def callArguments
    (p : Phrases) : Reader Unit :=
  group .paren (commaList (p.expression true))

/- Read a field or a method behind a point. -/
def namedTrailer
    (p : Phrases) : Reader Unit := do
  let named ← member
  let argued := named && (← sees (Ahead.mark "::"))
  if argued then
    mark "::"
    arguments p
  if argued || (named && (← sees (Ahead.group .paren))) then
    callArguments p

/- Read what stands behind a point. -/
def pointTrailer
    (p : Phrases) : Reader Unit := do
  if !(← indexes) then
    if !(← wordIf "await") then
      namedTrailer p

/- Whether a single point comes next. -/
def startsPointTrailer
    (ts : Tokens) : Bool :=
  Ahead.mark "." ts && !Ahead.mark ".." ts

/- Read one thing behind an operand, if one comes next. -/
def trailer
    (p : Phrases)
    (form : ExpressionForm) : Reader Bool := do
  if ← sees (Ahead.group .paren) then
    callArguments p
    pure true
  else if form ≠ .range && (← sees startsPointTrailer) then
    mark "."
    pointTrailer p
    pure true
  else if ← sees (Ahead.group .bracket) then
    group .bracket (do
      let _ ← p.expression true)
    pure true
  else if form ≠ .range then
    markIf "?"
  else
    pure false

/-
  Read all that follows an operand, of which there is no more
  than the fuel allows.
-/
def trailersUpTo
    (p : Phrases) : Nat → ExpressionForm → Reader ExpressionForm
| 0, _ => fail
| fuel + 1, form => do
    if ← trailer p form then
      trailersUpTo p fuel .other
    else
      pure form

/- Read all that follows an operand. -/
def trailers
    (p : Phrases)
    (form : ExpressionForm) : Reader ExpressionForm :=
  fun ts => trailersUpTo p (ts.length + 1) form ts

end Item

end TreePath
