import TreePath.Item.Bound

/-
  This file defines the reading of parameters in angles and of
  the conditions on them.

  Key definitions include:
    * `Item.parameter`
    * `Item.parameters`
    * `Item.conditions`
-/

namespace TreePath

namespace Item

open Reader

------------------------------------------------------------
-- Parameters
------------------------------------------------------------

/- Whether the bounds of a parameter are at their end. -/
def endsParameterBounds
    (ts : Tokens) : Bool :=
  ts.isEmpty || Ahead.mark "," ts || Ahead.mark ">" ts ||
    Ahead.mark "=" ts

/- Read a sign and what stands behind it, if the sign comes
   next, without writing them; the tokens behind the sign are
   told. -/
def behindSign
    (sign : String)
    (r : Reader Unit) : Reader Tokens := do
  let (found, _) ← captured (markIf sign)
  if found then
    let (_, tokens) ← captured r
    pure tokens
  else
    pure []

/- Read the bounds of a lifetime behind a colon. -/
def lifetimeBounds
    (ends : Tokens → Bool) : Reader Unit := do
  let _ ← sum ends lifetime

/- Read the bounds of a type behind a colon. -/
def typeBounds
    (p : Phrases)
    (ends : Tokens → Bool) : Reader Unit := do
  let _ ← sum ends (p.bound false true)

/- Read a type, whatever it looks like. -/
def anyType
    (p : Phrases) : Reader Unit := do
  let _ ← p.type true

/- Read the kind of a parameter, with its name. -/
def parameterKind
    (p : Phrases)
    (blank : Bool) : Reader (Tokens × ParameterKind) := do
  if ← sees Ahead.lifetime then
    let (_, name) ← captured lifetime
    let bounds ←
      behindSign ":" (lifetimeBounds endsParameterBounds)
    pure (name, .lifetime bounds)
  else if ← wordIf "const" then
    let (_, name) ← captured name
    mark ":"
    let (_, type) ← captured (anyType p)
    let default ← behindSign "=" (constantArgument p)
    pure (name, .constant type default)
  else if blank && (← sees (Ahead.word "_")) then
    let (_, name) ← captured (word "_")
    pure (name, .type [] [])
  else
    let (_, name) ← captured name
    let bounds ←
      behindSign ":" (typeBounds p endsParameterBounds)
    let default ← behindSign "=" (anyType p)
    pure (name, .type bounds default)

/-
  Read a parameter without writing it.  Whether a comma
  follows it is not known; only the parameters of an item may
  be blank.
-/
def parameter
    (p : Phrases)
    (blank : Bool) : Reader Parameter := do
  let (read, _) ←
    captured (do
      let (_, attributes) ← captured (attributes p)
      let (name, kind) ← parameterKind p blank
      pure ⟨attributes, name, kind, false⟩)
  pure read

/- Read a parameter of a binder. -/
def boundParameter
    (p : Phrases) : Reader Unit := do
  let read ← parameter p false
  write read.written

/- Read parameters in angles, if there are any. -/
def parameters
    (p : Phrases) : Reader (List Parameter) := do
  if ← sees (Ahead.mark "<") then
    let (read, _) ←
      captured (do
        mark "<"
        let read ←
          listed (Ahead.mark ">") "," (parameter p true)
        mark ">"
        pure read)
    let all :=
      read.map (fun (q, comma) => { q with comma := comma })
    write (Generics.written ⟨all, [], false⟩)
    pure all
  else
    pure []

------------------------------------------------------------
-- Conditions
------------------------------------------------------------

/- Whether a condition, or its bounds, are at their end. -/
def endsCondition
    (ts : Tokens) : Bool :=
  ts.isEmpty || Ahead.group .brace ts || Ahead.mark "," ts ||
    Ahead.mark ";" ts || Ahead.colon ts || Ahead.mark "=" ts

/- Whether a condition on a lifetime comes next. -/
def startsLifetimeCondition
    (ts : Tokens) : Bool :=
  Ahead.lifetime ts && Ahead.mark ":" (Ahead.beyond ts)

/- Read one condition. -/
def condition
    (p : Phrases) : Reader Unit := do
  if ← sees startsLifetimeCondition then
    lifetime
    mark ":"
    lifetimeBounds endsCondition
  else
    let _ ← binderIf p
    let _ ← p.type true
    mark ":"
    typeBounds p endsCondition

/-
  Read conditions behind their word, if there are any, and
  whether a comma follows the last; they have no parameters
  of their own.
-/
def conditions
    (p : Phrases) : Reader (List Tokens × Bool) := do
  let (read, _) ←
    captured (do
      if ← wordIf "where" then
        require (!(← sees Ahead.parameters))
        listed endsCondition "," (captured (condition p))
      else
        pure [])
  let all := read.map (fun ((_, tokens), _) => tokens)
  write (Generics.conditionTokens ⟨[], all, isOpenList read⟩)
  pure (all, isOpenList read)

end Item

end TreePath
