import TreePath.Item.Expression

/-
  This file defines the reading of the statements in a block.

  Key definitions include:
    * `Item.statement`
    * `Item.statements`
-/

namespace TreePath

namespace Item

open Reader

------------------------------------------------------------
-- Beginnings
------------------------------------------------------------

/- The tokens behind a path without arguments, if one comes
   next. -/
def beyondPath?
    (ts : Tokens) : Option Tokens :=
  (plainPath ts).map Read.rest

/- Whether an expansion in braces comes next that is a
   statement of its own. -/
def startsExpansion
    (ts : Tokens) : Bool :=
  match beyondPath? ts with
  | none => false
  | some rest =>
      let content := Ahead.beyond rest
      let behind := Ahead.beyond content
      Ahead.mark "!" rest && Ahead.group .brace content &&
        !(startsPointTrailer behind || Ahead.mark "?" behind)

/- Whether an expansion comes next that declares a name. -/
def startsNaming
    (ts : Tokens) : Bool :=
  match beyondPath? ts with
  | none => false
  | some rest =>
      let behind := Ahead.beyond rest
      Ahead.mark "!" rest &&
        (Ahead.name behind || Ahead.word "try" behind)

/- The words with which only items begin. -/
def itemWords : List String :=
  [ "pub", "extern", "use", "fn", "mod", "type", "struct",
    "enum", "trait", "impl", "macro" ]

/- Whether a variable of the whole program comes next. -/
def startsStatic
    (ts : Tokens) : Bool :=
  let behind := Ahead.beyond ts
  Ahead.word "static" ts &&
    (Ahead.word "mut" behind || Ahead.name behind)

/- The words and signs behind the word for a constant with
   which no item begins. -/
def continuesConstant
    (ts : Tokens) : Bool :=
  Ahead.group .brace ts || Ahead.mark "|" ts ||
    Ahead.oneOf ["static", "move"] ts ||
    (Ahead.word "async" ts &&
      !Ahead.oneOf ["unsafe", "extern", "fn"]
        (Ahead.beyond ts))

/- Pairs of words with which items begin. -/
def startsItemPair
    (ts : Tokens) : Bool :=
  let behind := Ahead.beyond ts
  (Ahead.word "crate" ts && !Ahead.mark "::" behind) ||
    (Ahead.word "unsafe" ts && !Ahead.group .brace behind) ||
    (Ahead.word "async" ts &&
      Ahead.oneOf ["unsafe", "extern", "fn"] behind) ||
    (Ahead.word "union" ts && Ahead.name behind) ||
    (Ahead.word "auto" ts && Ahead.word "trait" behind) ||
    (Ahead.word "default" ts &&
      Ahead.oneOf ["unsafe", "impl"] behind)

/- Whether an item comes next. -/
def startsItem
    (ts : Tokens) : Bool :=
  Ahead.oneOf itemWords ts || startsStatic ts ||
    (Ahead.word "const" ts &&
      !continuesConstant (Ahead.beyond ts)) ||
    startsItemPair ts || startsNaming ts

------------------------------------------------------------
-- Statements
------------------------------------------------------------

/- Whether the last of some tokens is a group in braces. -/
def endsInBrace
    (ts : Tokens) : Bool :=
  match ts.getLast? with
  | some (.group .brace _) => true
  | _ => false

/- Read the binding of a variable. -/
def letStatement
    (p : Phrases) : Reader Unit := do
  word "let"
  let _ ← p.pattern
  if ← markIf ":" then
    let _ ← p.type true
  if ← markIf "=" then
    let (_, tokens) ← noted (p.expression true)
    if !endsInBrace tokens then
      if ← wordIf "else" then
        block p
  mark ";"

/- Read an expression as a statement, and whether another may
   follow it. -/
def expressionStatement
    (p : Phrases) : Reader Bool := do
  let form ← p.leading
  let ended ← markIf ";"
  pure (ended || form = .block || form = .expansion true)

/- Read a statement, and whether another may follow it. -/
def statement
    (p : Phrases) : Reader Bool := do
  let ahead ← sees beyondAttributes
  if startsExpansion ahead then
    let _ ← attributes p
    let _ ← plainPath
    let _ ← expansionCall
    let _ ← markIf ";"
    pure true
  else if Ahead.word "let" ahead then
    let _ ← attributes p
    letStatement p
    pure true
  else if startsItem ahead then
    p.item
    pure true
  else
    let _ ← attributes p
    expressionStatement p

/-
  Read statements to the end, of which there are no more than
  the fuel allows.
-/
def statementsUpTo
    (p : Phrases) : Nat → Reader Unit
| 0 => fail
| fuel + 1 => do
    let _ ← repeated (Ahead.mark ";") (mark ";")
    if !(← sees List.isEmpty) then
      let ended ← statement p
      if !(← sees List.isEmpty) then
        require ended
        statementsUpTo p fuel

/- Read statements to the end. -/
def statements
    (p : Phrases) : Reader Unit :=
  fun ts => statementsUpTo p (ts.length + 1) ts

end Item

end TreePath
