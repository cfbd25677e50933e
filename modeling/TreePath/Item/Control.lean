import TreePath.Item.Bound
import TreePath.Item.Operation
import TreePath.Item.Pattern

/-
  This file defines the reading of expressions that begin with
  a word for control: conditions, loops, choices, closures and
  jumps.

  Key definitions include:
    * `Item.controlBlock`
    * `Item.letCondition`
    * `Item.closure`
    * `Item.jump`
-/

namespace TreePath

namespace Item

open Reader

------------------------------------------------------------
-- Beginnings
------------------------------------------------------------

/- The signs with which an expression may begin, each with
   those that it is no beginning of there. -/
def expressionSigns : List (String × List String) :=
  [ ("!", ["!="]), ("-", ["-=", "->"]), ("*", ["*="]),
    ("|", ["|="]), ("&", ["&="]), ("..", []),
    ("<", ["<=", "<<="]), ("::", []), ("#", []) ]

/- Whether an expression may come next. -/
def startsExpression
    (ts : Tokens) : Bool :=
  (Ahead.anyName ts && !Ahead.word "as" ts) ||
    Ahead.anyGroup ts || Ahead.literal ts ||
    Ahead.lifetime ts ||
    expressionSigns.any (fun (sign, longer) =>
      Ahead.mark sign ts &&
        !longer.any (fun l => Ahead.mark l ts))

------------------------------------------------------------
-- Conditions and Loops
------------------------------------------------------------

/-
  Read a condition with its blocks.  No more conditions follow
  one another than the fuel allows.
-/
def ifChainUpTo
    (p : Phrases) : Nat → Reader Unit
| 0 => fail
| fuel + 1 => do
    word "if"
    let _ ← p.expression false
    block p
    if ← wordIf "else" then
      if ← sees (Ahead.word "if") then
        ifChainUpTo p fuel
      else
        block p

/- Read a condition with its blocks. -/
def ifChain
    (p : Phrases) : Reader Unit :=
  fun ts => ifChainUpTo p (ts.length + 1) ts

/- Read a loop on a condition. -/
def whileLoop
    (p : Phrases) : Reader Unit := do
  word "while"
  let _ ← p.expression false
  attributedBlock p

/- Read a loop over items. -/
def forLoop
    (p : Phrases) : Reader Unit := do
  word "for"
  let _ ← alternatives p
  word "in"
  let _ ← p.expression false
  attributedBlock p

/- Read a loop without end. -/
def endlessLoop
    (p : Phrases) : Reader Unit := do
  word "loop"
  attributedBlock p

------------------------------------------------------------
-- Choices
------------------------------------------------------------

/- Read an arm of a choice.  Unless a block is chosen, a comma
   stands in front of the next arm. -/
def arm
    (p : Phrases) : Reader Unit := do
  let _ ← attributes p
  let _ ← alternatives p
  if ← wordIf "if" then
    let _ ← p.expression true
  mark "=>"
  let form ← p.leading
  let ended ← markIf ","
  require (ended || form = .block || (← sees List.isEmpty))

/- Read a choice. -/
def choice
    (p : Phrases) : Reader Unit := do
  word "match"
  let _ ← p.expression false
  group .brace (do
    innerAttributes p
    let _ ← repeated (fun ts => !ts.isEmpty) (arm p))

------------------------------------------------------------
-- Words with Blocks
------------------------------------------------------------

/- Whether a block comes next behind a word. -/
def startsWordBlock
    (w : String)
    (ts : Tokens) : Bool :=
  Ahead.word w ts && Ahead.group .brace (Ahead.beyond ts)

/- Whether a loop over items comes next, and not a closure
   that is bound over parameters. -/
def startsForLoop
    (ts : Tokens) : Bool :=
  Ahead.word "for" ts && !Ahead.parameters (Ahead.beyond ts)

/- Whether an expression comes next that ends with its
   block. -/
def startsControlBlock
    (ts : Tokens) : Bool :=
  Ahead.oneOf ["if", "while", "loop", "match", "unsafe"] ts ||
    startsForLoop ts || startsWordBlock "try" ts ||
    startsWordBlock "const" ts || Ahead.group .brace ts ||
    Ahead.lifetime ts

/- Read a loop or a block without a label. -/
def loopOrBlock
    (p : Phrases) : Reader Unit := do
  if ← sees (Ahead.word "while") then
    whileLoop p
  else if ← sees (Ahead.word "for") then
    forLoop p
  else if ← sees (Ahead.word "loop") then
    endlessLoop p
  else
    attributedBlock p

/- Read an expression that ends with its block. -/
def controlBlock
    (p : Phrases) : Reader Unit := do
  if ← sees (Ahead.word "if") then
    ifChain p
  else if ← sees (Ahead.word "match") then
    choice p
  else if ← wordIf "try" then
    block p
  else if ← sees (Ahead.oneOf ["unsafe", "const"]) then
    take 1
    attributedBlock p
  else if ← lifetimeIf then
    mark ":"
    loopOrBlock p
  else
    loopOrBlock p

------------------------------------------------------------
-- Bindings and Closures
------------------------------------------------------------

/- Read a binding that can fail. -/
def letCondition
    (p : Phrases)
    (structs : Bool) : Reader Unit := do
  word "let"
  let _ ← alternatives p
  mark "="
  let left ← p.operand structs
  let _ ← p.operations structs .compare left

/- Read a parameter of a closure. -/
def closureParameter
    (p : Phrases) : Reader Unit := do
  let _ ← attributes p
  let _ ← p.pattern
  if ← markIf ":" then
    let _ ← p.type true

/- Whether a closure comes next. -/
def startsClosure
    (ts : Tokens) : Bool :=
  Ahead.mark "|" ts || Ahead.word "move" ts ||
    (Ahead.word "for" ts && !startsForLoop ts) ||
    (Ahead.word "const" ts && !startsWordBlock "const" ts) ||
    Ahead.word "static" ts ||
    (Ahead.word "async" ts &&
      (Ahead.mark "|" (Ahead.beyond ts) ||
        Ahead.word "move" (Ahead.beyond ts)))

/- Read a closure. -/
def closure
    (p : Phrases)
    (structs : Bool) : Reader Unit := do
  let _ ← binderIf p
  let _ ← wordIf "const"
  let _ ← wordIf "static"
  let _ ← wordIf "async"
  let _ ← wordIf "move"
  mark "|"
  let _ ← listed (Ahead.mark "|") "," (closureParameter p)
  mark "|"
  if ← markIf "->" then
    let _ ← p.type true
    block p
  else
    let _ ← p.expression structs

------------------------------------------------------------
-- Jumps
------------------------------------------------------------

/- Read an expression if one may come next. -/
def jumpValue
    (p : Phrases)
    (structs : Bool) : Reader Unit := do
  let bare (ts : Tokens) : Bool :=
    startsExpression ts &&
      (structs || !Ahead.group .brace ts)
  if ← sees bare then
    let _ ← p.expression true

/- Whether a label comes next that names a loop, and not one
   to be left. -/
def startsLabelled
    (ts : Tokens) : Bool :=
  Ahead.lifetime ts && Ahead.mark ":" (Ahead.beyond ts)

/- The words that begin a jump. -/
def jumpWords : List String :=
  ["break", "continue", "return", "become", "yield"]

/- Read a jump. -/
def jump
    (p : Phrases)
    (structs : Bool) : Reader Unit := do
  if ← wordIf "break" then
    require (!(← sees startsLabelled))
    let _ ← lifetimeIf
    jumpValue p structs
  else if ← wordIf "continue" then
    let _ ← lifetimeIf
  else if ← sees (Ahead.word "become") then
    verbatim (do
      word "become"
      let _ ← p.expression true)
  else
    require (← sees (Ahead.oneOf ["return", "yield"]))
    take 1
    jumpValue p true

end Item

end TreePath
