import TreePath.Item.Bound

/-
  This file defines the reading of types.

  Key definitions include:
    * `Item.type`
-/

namespace TreePath

namespace Item

open Reader

------------------------------------------------------------
-- Function Types
------------------------------------------------------------

/- Read the word for a foreign function and the name of its
   convention, if they come next. -/
def convention : Reader Unit := do
  if ← wordIf "extern" then
    let _ ← onlyIf Ahead.plainText (take 1)

/- Whether a name comes next that stands for an argument. -/
def startsArgumentName
    (ts : Tokens) : Bool :=
  Ahead.name ts || Ahead.word "_" ts

/- Whether the sign for any further arguments comes next,
   perhaps behind a name. -/
def startsOpenEnd
    (ts : Tokens) : Bool :=
  Ahead.mark "..." ts ||
    (startsArgumentName ts &&
      Ahead.mark ":" (Ahead.beyond ts) &&
      Ahead.mark "..." (Ahead.beyond (Ahead.beyond ts)))

/- Read the sign for any further arguments, with its name. -/
def openEnd : Reader Unit := do
  if ← sees startsArgumentName then
    let _ ← anyName
    mark ":"
  mark "..."
  let _ ← markIf ","

/- Whether a changeable receiver comes next. -/
def startsChangeableSelf
    (ts : Tokens) : Bool :=
  Ahead.word "mut" ts && Ahead.word "self" (Ahead.beyond ts)

/- Read a changeable receiver, with its type if it has one. -/
def changeableSelf
    (p : Phrases) : Reader Unit := do
  word "mut"
  word "self"
  if ← sees Ahead.colon then
    mark ":"
    let _ ← p.type true

/- Read an argument of a function type; only the first can be
   a receiver. -/
def functionArgument
    (p : Phrases)
    (first : Bool) : Reader Unit := do
  if first && (← sees startsChangeableSelf) then
    verbatim (changeableSelf p)
  else
    let named (ts : Tokens) : Bool :=
      (startsArgumentName ts ||
        (first && Ahead.word "self" ts)) &&
      Ahead.colon (Ahead.beyond ts)
    if ← sees named then
      let _ ← anyName
      mark ":"
    let _ ← p.type true

/-
  Read the arguments of a function type, of which there are no
  more than the fuel allows.
-/
def functionArgumentsUpTo
    (p : Phrases) : Nat → Bool → Reader Unit
| 0, _ => fail
| fuel + 1, first => do
    if ← sees List.isEmpty then
      pure ()
    else
      let _ ← attributes p
      if ← sees startsOpenEnd then
        openEnd
      else
        functionArgument p first
        if ← markIf "," then
          functionArgumentsUpTo p fuel false

/- Read the arguments of a function type. -/
def functionArguments
    (p : Phrases) : Reader Unit :=
  fun ts => functionArgumentsUpTo p (ts.length + 1) true ts

/- Read the type of a function. -/
def functionType
    (p : Phrases) : Reader Unit := do
  let _ ← wordIf "unsafe"
  convention
  word "fn"
  group .paren (functionArguments p)
  result p

------------------------------------------------------------
-- Paths and Bounds
------------------------------------------------------------

/-
  Read a type that is a path, an expansion or a sum of bounds;
  a binder may have been read in front of it.
-/
def pathType
    (p : Phrases)
    (plus : Bool)
    (binder : Tokens) : Reader TypeForm := do
  let (form, tokens) ← captured (path p false)
  if form.isPlain && (← sees Ahead.bang) then
    write tokens
    let _ ← expansionCall
    pure .other
  else
    write (binder ++ tokens)
    if plus && (← sees (Ahead.mark "+")) then
      mark "+"
      let _ ← laterBounds p false false
      pure .other
    else if !binder.isEmpty then
      pure .bound
    else if form.isSingle then
      pure .segment
    else
      pure .path

/- Read a type that is bound over parameters. -/
def boundType
    (p : Phrases)
    (plus : Bool) : Reader TypeForm := do
  let (_, binder) ← captured (binder p)
  if ← sees Ahead.function then
    write binder
    functionType p
    pure .other
  else
    require (← sees Ahead.segment)
    pathType p plus binder

/- Read the type of an object. -/
def objectType
    (p : Phrases)
    (plus : Bool) : Reader Unit := do
  let _ ←
    verbatimWhen id (do
      word "dyn"
      let starred ← markIf "*"
      traitBounds p plus false false
      pure starred)

------------------------------------------------------------
-- Brackets
------------------------------------------------------------

/- What stands in round brackets: a bound in doubt, one type,
   or anything else. -/
inductive Enclosed where
| doubted
| single (form : TypeForm)
| other

/- Read what stands in round brackets. -/
def enclosed
    (p : Phrases) : Reader Enclosed := do
  if ← sees List.isEmpty then
    pure .other
  else if ← sees Ahead.lifetime then
    traitBounds p true false false
    pure .other
  else if ← sees (Ahead.mark "?") then
    let _ ← traitBound p false
    pure .doubted
  else
    let form ← p.type true
    if ← markIf "," then
      commaList (p.type true)
      pure .other
    else
      pure (.single form)

/- Read bounds, each behind a plus. -/
def addedBounds
    (p : Phrases) : Reader (List BoundForm) :=
  repeated (Ahead.mark "+") (do
    mark "+"
    p.bound false false)

/- Read a type that begins with round brackets. -/
def roundType
    (p : Phrases)
    (plus : Bool) : Reader TypeForm := do
  match ← group .paren (enclosed p) with
  | .doubted =>
      let more ← addedBounds p
      pure (if more.isEmpty then .bound else .other)
  | .single form =>
      if plus && form ≠ .other then
        let _ ← addedBounds p
      pure .other
  | .other => pure .other

/- Read a list type, with its length if it has one. -/
def listType
    (p : Phrases) : Reader Unit :=
  group .bracket (do
    let _ ← p.type true
    if ← markIf ";" then
      let _ ← p.expression true)

------------------------------------------------------------
-- Types
------------------------------------------------------------

/- Read the call of a compiler help. -/
def builtinCall : Reader Unit :=
  verbatim (do
    word "builtin"
    mark "#"
    let _ ← name
    group .paren everything)

/- Read a type that is no path. -/
def otherType
    (p : Phrases)
    (plus : Bool) : Reader Unit := do
  if ← sees Ahead.function then
    functionType p
  else if ← sees Ahead.builtin then
    builtinCall
  else if ← sees (Ahead.mark "<") then
    qualifiedPath p false
  else if ← sees (Ahead.word "dyn") then
    objectType p plus
  else if ← sees (Ahead.group .bracket) then
    listType p
  else if ← markIf "*" then
    require (← sees (Ahead.oneOf ["const", "mut"]))
    take 1
    let _ ← p.type false
  else if ← markIf "&" then
    let _ ← lifetimeIf
    let _ ← wordIf "mut"
    let _ ← p.type false
  else if ← markIf "!" then
    pure ()
  else if ← wordIf "impl" then
    traitBounds p plus true true
  else if ← wordIf "_" then
    pure ()
  else
    require (← sees Ahead.lifetime)
    traitBounds p true false false

/- Whether a path comes next that is no call of a compiler
   help. -/
def startsPathType
    (ts : Tokens) : Bool :=
  (Ahead.segment ts || Ahead.mark "::" ts) &&
    !Ahead.builtin ts

/- Read a type.  Bounds behind a plus belong to it only if
   that is allowed. -/
def type
    (p : Phrases)
    (plus : Bool) : Reader TypeForm := do
  if ← sees (Ahead.word "for") then
    boundType p plus
  else if ← sees (Ahead.group .paren) then
    roundType p plus
  else if ← sees startsPathType then
    pathType p plus []
  else
    otherType p plus
    pure .other

end Item

end TreePath
