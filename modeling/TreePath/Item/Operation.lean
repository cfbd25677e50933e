import TreePath.Item.Path

/-
  This file defines the reading of operations with two sides,
  by the precedence of their signs.

  Key definitions include:
    * `Item.operators`
    * `Item.rightSide`
    * `Item.rangeLimit`
    * `Item.operations`
-/

namespace TreePath

namespace Item

open Reader

------------------------------------------------------------
-- Signs
------------------------------------------------------------

/- The signs of operations.  None stands behind one that it is
   the beginning of. -/
def operators : List (String × Precedence) :=
  [ ("+=", .assign), ("-=", .assign), ("*=", .assign),
    ("/=", .assign), ("%=", .assign), ("^=", .assign),
    ("&=", .assign), ("|=", .assign), ("<<=", .assign),
    (">>=", .assign), ("&&", .and), ("||", .or),
    ("<<", .shift), (">>", .shift), ("==", .compare),
    ("<=", .compare), ("!=", .compare), (">=", .compare),
    ("+", .sum), ("-", .sum), ("*", .product),
    ("/", .product), ("%", .product), ("^", .bitXor),
    ("&", .bitAnd), ("|", .bitOr), ("<", .compare),
    (">", .compare) ]

/- The operation whose sign comes next. -/
def operator?
    (ts : Tokens) : Option (String × Precedence) :=
  operators.find? (fun o => Ahead.mark o.1 ts)

/- Whether the sign of an assignment comes next. -/
def startsAssignment
    (ts : Tokens) : Bool :=
  Ahead.mark "=" ts && !Ahead.mark "=>" ts

/- The precedence of the operation that comes next. -/
def nextPrecedence
    (ts : Tokens) : Precedence :=
  match operator? ts with
  | some (_, precedence) => precedence
  | none =>
      if startsAssignment ts then .assign
      else if Ahead.mark ".." ts then .range
      else if Ahead.word "as" ts then .cast
      else .jump

------------------------------------------------------------
-- Right Sides
------------------------------------------------------------

/-
  Read what binds more tightly than an operation to its right
  side; assignments also bind to each other.
-/
def rightSideUpTo
    (p : Phrases)
    (structs : Bool)
    (precedence : Precedence) :
    Nat → ExpressionForm → Reader ExpressionForm
| 0, _ => fail
| fuel + 1, form => do
    let next ← sees nextPrecedence
    if precedence.rank < next.rank ||
        (next = .assign && precedence = .assign) then
      let (form, moved) ←
        measured (p.operations structs next form)
      if moved then
        rightSideUpTo p structs precedence fuel form
      else
        pure form
    else
      pure form

/- Read the right side of an operation. -/
def rightSide
    (p : Phrases)
    (structs : Bool)
    (precedence : Precedence) : Reader ExpressionForm := do
  let form ← p.operand structs
  fun ts =>
    rightSideUpTo p structs precedence (ts.length + 1) form ts

------------------------------------------------------------
-- Ranges
------------------------------------------------------------

/- The signs that do not begin the end of a range. -/
def rangeStops : List String :=
  [ ",", ";", "?", "=>", "=", "+", "/", "%", "^", ">", "<=",
    "!=", "-=", "*=", "&=", "|=", "<<=" ]

/- Whether a range has no end. -/
def isEndless
    (structs : Bool)
    (ts : Tokens) : Bool :=
  ts.isEmpty || rangeStops.any (fun s => Ahead.mark s ts) ||
    (Ahead.mark "." ts && !Ahead.mark ".." ts) ||
    (!structs && Ahead.group .brace ts) || Ahead.word "as" ts

/- Read the sign and the end of a range; one to which its end
   belongs must have one. -/
def rangeLimit
    (p : Phrases)
    (structs : Bool) : Reader Unit := do
  require (!(← sees (Ahead.mark "...")))
  if ← markIf "..=" then
    let _ ← rightSide p structs .range
  else
    mark ".."
    if !(← sees (isEndless structs)) then
      let _ ← rightSide p structs .range

------------------------------------------------------------
-- Operations
------------------------------------------------------------

/- Whether something comes next that may not follow the type
   in a cast. -/
def refusesCast
    (ts : Tokens) : Bool :=
  (Ahead.mark "." ts && !Ahead.mark ".." ts) ||
    Ahead.mark "?" ts || Ahead.group .bracket ts ||
    Ahead.group .paren ts

/- Whether operations of a precedence are read. -/
def Precedence.reaches
    (least precedence : Precedence) : Bool :=
  least.rank ≤ precedence.rank

/-
  Read one operation behind its left side, if one of at least
  a precedence comes next.  Comparisons do not follow one
  another.
-/
def operation
    (p : Phrases)
    (structs : Bool)
    (least : Precedence)
    (left : ExpressionForm) :
    Reader (Option ExpressionForm) := do
  if let some (sign, precedence) ← sees operator? then
    if least.reaches precedence then
      let compares := precedence == .compare
      require (!(compares && left = .comparison))
      mark sign
      let _ ← rightSide p structs precedence
      pure (some (if compares then .comparison else .other))
    else
      pure none
  else if least.reaches .assign &&
      (← sees startsAssignment) then
    mark "="
    let _ ← rightSide p structs .assign
    pure (some .other)
  else if least.reaches .range &&
      (← sees (Ahead.mark "..")) then
    rangeLimit p structs
    pure (some .range)
  else if ← sees (Ahead.word "as") then
    word "as"
    let _ ← p.type false
    require (!(← sees refusesCast))
    pure (some .other)
  else
    pure none

/-
  Read operations behind their left side.  A range is no left
  side.
-/
def operationsUpTo
    (p : Phrases)
    (structs : Bool)
    (least : Precedence) :
    Nat → ExpressionForm → Reader ExpressionForm
| 0, _ => fail
| fuel + 1, left => do
    if left = .range then
      pure left
    else
      match ← operation p structs least left with
      | some form => operationsUpTo p structs least fuel form
      | none => pure left

/- Read operations of at least a precedence behind their left
   side. -/
def operations
    (p : Phrases)
    (structs : Bool)
    (least : Precedence)
    (left : ExpressionForm) : Reader ExpressionForm :=
  fun ts =>
    operationsUpTo p structs least (ts.length + 1) left ts

end Item

end TreePath
