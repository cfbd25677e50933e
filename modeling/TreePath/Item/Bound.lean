import TreePath.Item.Path

/-
  This file defines the reading of bounds: lifetimes, traits
  and lists of what a type captures.

  Key definitions include:
    * `Item.binder`
    * `Item.result`
    * `Item.traitBound`
    * `Item.bound`
    * `Item.bounds`
    * `Item.laterBounds`
-/

namespace TreePath

namespace Item

open Reader

------------------------------------------------------------
-- Binders and Functions
------------------------------------------------------------

/- Read the parameters that something is bound over. -/
def binder
    (p : Phrases) : Reader Unit := do
  word "for"
  mark "<"
  let _ ← listed (Ahead.mark ">") "," p.parameter
  mark ">"

/- Read a binder if one comes next. -/
def binderIf
    (p : Phrases) : Reader Bool :=
  onlyIf (Ahead.word "for") (binder p)

/- Read the result of a function type, if it has one. -/
def result
    (p : Phrases) : Reader Unit := do
  if ← markIf "->" then
    let _ ← p.type false

/- Read the arguments and the result of a function bound. -/
def roundArguments
    (p : Phrases) : Reader Unit := do
  group .paren (commaList (p.type true))
  result p

------------------------------------------------------------
-- Bounds
------------------------------------------------------------

/- Whether arguments in round brackets come next, perhaps
   behind colons. -/
def startsRound
    (ts : Tokens) : Bool :=
  Ahead.group .paren ts ||
    (Ahead.mark "::" ts && Ahead.group .paren (ts.drop 2))

/-
  Read the path of a trait.  If its last segment has no
  arguments, some in round brackets may follow; they are
  written without colons in front of them.
-/
def traitPath
    (p : Phrases) : Reader Unit := do
  let (form, tokens) ← captured (path p false)
  if form.endsBare && (← sees startsRound) then
    write form.withoutLast
    let _ ← captured (markIf "::")
    roundArguments p
  else
    write tokens

/- Read the mark of a bound for constants, where one may
   be. -/
def constantMark
    (allowed : Bool) : Reader Bool := do
  let conditional ←
    onlyIf (Ahead.group .bracket)
      (group .bracket (word "const"))
  let marked ←
    if conditional then pure true else wordIf "const"
  require (allowed || !marked)
  pure marked

/- Read a trait that may be bound over parameters or be put in
   doubt, but not both. -/
def traitBound
    (p : Phrases)
    (constant : Bool) : Reader BoundForm := do
  let bound ← binderIf p
  let marked ← constantMark constant
  let doubted ← markIf "?"
  require (!(bound && doubted))
  traitPath p
  pure (if marked then .constant else .trait)

/- Read something that is captured, and whether it is a
   lifetime. -/
def capture : Reader Bool := do
  if ← lifetimeIf then
    pure true
  else
    require (← sees (fun ts =>
      Ahead.name ts || Ahead.word "Self" ts))
    take 1
    pure false

/- Read a bound. -/
def bound
    (p : Phrases)
    (captures constant : Bool) : Reader BoundForm := do
  if ← lifetimeIf then
    pure .lifetime
  else if ← sees (Ahead.word "use") then
    require captures
    word "use"
    angled capture
    pure .captures
  else
    verbatimWhen (· == .constant) (do
      if ← sees (Ahead.group .paren) then
        group .paren (traitBound p constant)
      else
        traitBound p constant)

------------------------------------------------------------
-- Sums of Bounds
------------------------------------------------------------

/- Whether another bound may come next. -/
def startsBound
    (constant : Bool)
    (ts : Tokens) : Bool :=
  Ahead.anyName ts || Ahead.mark "::" ts ||
    Ahead.mark "?" ts || Ahead.lifetime ts ||
    Ahead.group .paren ts ||
    (constant && Ahead.group .bracket ts)

/- Read bounds behind the first plus, up to where none comes
   next. -/
def laterBounds
    (p : Phrases)
    (captures constant : Bool) : Reader (List BoundForm) :=
  sum (fun ts => !startsBound constant ts)
    (p.bound captures constant)

/- Read bounds, only one if no plus may follow. -/
def bounds
    (p : Phrases)
    (plus captures constant : Bool) :
    Reader (List BoundForm) := do
  let first ← p.bound captures constant
  if plus && (← sees (Ahead.mark "+")) then
    mark "+"
    let more ← laterBounds p captures constant
    pure (first :: more)
  else
    pure [first]

/- Whether a bound is a trait. -/
def BoundForm.isTrait : BoundForm → Bool
| .trait => true
| .constant => true
| _ => false

/- Read bounds of which one at least is a trait. -/
def traitBounds
    (p : Phrases)
    (plus captures constant : Bool) : Reader Unit := do
  let forms ← bounds p plus captures constant
  require (forms.any BoundForm.isTrait)

end Item

end TreePath
