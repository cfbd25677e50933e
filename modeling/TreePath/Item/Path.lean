import TreePath.Item.Attribute

/-
  This file defines the reading of paths and of the arguments
  of their segments.

  Key definitions include:
    * `Item.PathForm`
    * `Item.path`
    * `Item.anyPath`
    * `Item.expansionCall`
    * `Item.arguments`
    * `Item.constantArgument`
-/

namespace TreePath

namespace Item

open Reader

------------------------------------------------------------
-- Forms of Paths
------------------------------------------------------------

/- A path as the tokens of its segments; a rooted one begins
   with colons. -/
structure PathForm where
  rooted : Bool
  segments : List Tokens

namespace PathForm

/- Whether no segment has arguments. -/
def isPlain
    (f : PathForm) : Bool :=
  f.segments.all (fun s => s.length == 1)

/- Whether a path is a single segment. -/
def isSingle
    (f : PathForm) : Bool :=
  !f.rooted && f.segments.length == 1

/- Whether a segment has no arguments, or an empty list of
   them. -/
def isBare : Tokens → Bool
| [_] => true
| [_, .mark '<' _, .mark '>' _] => true
| [_, .mark ':' _, .mark ':' _, .mark '<' _, .mark '>' _] =>
    true
| _ => false

/- Whether the last segment has no arguments, or an empty list
   of them. -/
def endsBare
    (f : PathForm) : Bool :=
  (f.segments.getLast?.map isBare).getD false

/- Two colons. -/
def colons : Tokens :=
  [.mark ':' true, .mark ':' false]

/- The tokens of segments with colons between them. -/
def joined : List Tokens → Tokens
| [] => []
| [s] => s
| s :: segments => s ++ colons ++ joined segments

/- The tokens of a path without the arguments of its last
   segment. -/
def withoutLast
    (f : PathForm) : Tokens :=
  let last := (f.segments.getLast?.getD []).take 1
  (if f.rooted then colons else []) ++
    joined (f.segments.dropLast ++ [last])

end PathForm

------------------------------------------------------------
-- Arguments
------------------------------------------------------------

/- Whether a constant comes next: a literal or a block. -/
def startsConstant
    (ts : Tokens) : Bool :=
  Ahead.literal ts || Ahead.group .brace ts

/- Read a constant: a literal, a name or a block. -/
def constantArgument
    (p : Phrases) : Reader Unit := do
  if ← sees Ahead.literal then
    literal
  else if ← sees Ahead.name then
    let _ ← name
  else
    attributedBlock p

/- Whether the bounds of an associated type are at their end.
   -/
def endsItemBounds
    (ts : Tokens) : Bool :=
  Ahead.mark "," ts || Ahead.mark ">" ts

/- Whether a lifetime comes next that is no bound. -/
def startsLifetimeOnly
    (ts : Tokens) : Bool :=
  Ahead.lifetime ts && !Ahead.mark "+" (Ahead.beyond ts)

/- Read a type as an argument; behind a name, an associated
   type or constant can be given a value or bounds. -/
def typeArgument
    (p : Phrases) : Reader Unit := do
  let form ← p.type true
  if form = .segment then
    if ← markIf "=" then
      if ← sees startsConstant then
        constantArgument p
      else
        let _ ← p.type true
    else if ← markIf ":" then
      let _ ← sum endsItemBounds (p.bound false true)

/- Read an argument, and whether it is a lifetime. -/
def argument
    (p : Phrases) : Reader Bool := do
  if ← sees startsLifetimeOnly then
    lifetime
    pure true
  else if ← sees startsConstant then
    constantArgument p
    pure false
  else
    typeArgument p
    pure false

/- Read arguments in angles. -/
def arguments
    (p : Phrases) : Reader Unit :=
  angled (argument p)

------------------------------------------------------------
-- Paths
------------------------------------------------------------

/- Whether arguments come next; among values they need colons
   in front of them. -/
def startsArguments
    (values : Bool)
    (ts : Tokens) : Bool :=
  (!values && Ahead.mark "<" ts && !Ahead.mark "<=" ts &&
    !Ahead.mark "<<=" ts) ||
  (Ahead.mark "::" ts && Ahead.mark "<" (ts.drop 2))

/- The words that are segments without arguments. -/
def bareWords : List String :=
  ["self", "super", "crate", "try"]

/- Read a segment; its tokens are told. -/
def segment
    (p : Phrases)
    (values : Bool) : Reader Tokens := do
  let (_, tokens) ←
    noted (do
      if ← sees (Ahead.oneOf bareWords) then
        take 1
      else
        require (← sees (fun ts =>
          Ahead.name ts || Ahead.word "Self" ts))
        take 1
        if ← sees (startsArguments values) then
          let _ ← markIf "::"
          arguments p)
  pure tokens

/- Whether another segment comes next. -/
def startsSegment
    (ts : Tokens) : Bool :=
  Ahead.mark "::" ts && !Ahead.group .paren (ts.drop 2)

/- Read a path. -/
def path
    (p : Phrases)
    (values : Bool) : Reader PathForm := do
  let rooted ← markIf "::"
  let first ← segment p values
  let more ←
    repeated startsSegment (do
      mark "::"
      segment p values)
  pure ⟨rooted, first :: more⟩

/- Read a path that begins with a type in angles. -/
def qualifiedPath
    (p : Phrases)
    (values : Bool) : Reader Unit := do
  mark "<"
  let _ ← p.type true
  if ← wordIf "as" then
    let _ ← path p false
  mark ">"
  mark "::"
  let _ ← segment p values
  let _ ←
    repeated (Ahead.mark "::") (do
      mark "::"
      segment p values)

/- Read a path; the form of one that begins with a type is not
   told. -/
def anyPath
    (p : Phrases)
    (values : Bool) : Reader (Option PathForm) := do
  if ← sees (Ahead.mark "<") then
    qualifiedPath p values
    pure none
  else
    let form ← path p values
    pure (some form)

/- Whether a path of a form can be expanded. -/
def isExpandable
    (form : Option PathForm) : Bool :=
  (form.map PathForm.isPlain).getD false

/- Read the call of an expansion behind its path, and whether
   it has braces. -/
def expansionCall : Reader Bool := do
  mark "!"
  let (d, _) ← anyGroup
  pure (d == .brace)

end Item

end TreePath
