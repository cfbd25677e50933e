import TreePath.Item.Declaration
import TreePath.Item.Signature

/-
  This file defines the reading of functions, constants and
  types, as items or as members of traits, of implementations
  and of foreign blocks.

  Key definitions include:
    * `Item.constantItem`
    * `Item.typeItem`
    * `Item.traitMember`
    * `Item.implementationMember`
    * `Item.foreignMember`
-/

namespace TreePath

namespace Item

open Reader

------------------------------------------------------------
-- Parts
------------------------------------------------------------

/- Read a name or the blank. -/
def nameOrBlank : Reader Unit := do
  require (← sees (fun ts =>
    Ahead.name ts || Ahead.word "_" ts))
  take 1

/- Read bounds behind a colon; an empty list of them is left
   out with its colon. -/
def givenBounds
    (p : Phrases)
    (ends : Tokens → Bool) : Reader Unit := do
  let bounds ← behindSign ":" (typeBounds p ends)
  write (Parameter.behind ':' bounds)

/- Read a value behind a sign, if it comes next. -/
def givenValue
    (p : Phrases) : Reader Unit := do
  if ← markIf "=" then
    let _ ← p.expression true

/- Read the call of an expansion among members. -/
def expansionMember : Reader Unit := do
  let _ ← plainPath
  let braced ← expansionCall
  if !braced then
    mark ";"

/- Read the body of a function or the sign that it has
   none. -/
def bodyOrNone
    (p : Phrases) : Reader Unit := do
  if !(← markIf ";") then
    attributedBlock p

------------------------------------------------------------
-- Constants and Types
------------------------------------------------------------

/- Read a constant. -/
def constantItem
    (p : Phrases) : Reader Unit := do
  word "const"
  nameOrBlank
  let _ ← parameters p
  mark ":"
  let _ ← p.type true
  givenValue p
  let _ ← conditions p
  mark ";"

/- Whether the bounds of a type are at their end. -/
def endsTypeBounds
    (ts : Tokens) : Bool :=
  Ahead.word "where" ts || Ahead.mark "=" ts ||
    Ahead.mark ";" ts

/- Read a type and what it is.  Conditions stand in front of
   that, behind it, or in one of both places. -/
def typeItem
    (p : Phrases)
    (before behind : Bool) : Reader Unit := do
  word "type"
  let _ ← name
  let _ ← parameters p
  givenBounds p endsTypeBounds
  let conditioned ← sees (Ahead.word "where")
  if before then
    let _ ← conditions p
  if ← markIf "=" then
    let _ ← p.type true
  if behind && !(before && conditioned) then
    let _ ← conditions p
  mark ";"

------------------------------------------------------------
-- Members
------------------------------------------------------------

/- Read a function, a constant or a type among members. -/
def plainMember
    (p : Phrases)
    (alone : Bool) : Reader Unit := do
  if ← sees (startsSignature false) then
    signature p false
    bodyOrNone p
  else if ← sees (Ahead.word "const") then
    constantItem p
  else if ← sees (Ahead.word "type") then
    typeItem p false true
  else
    require alone
    expansionMember

/- Read a member of a trait. -/
def traitMember
    (p : Phrases) : Reader Unit := do
  let _ ← attributes p
  let visible ← visibility
  let standard ← wordIf "default"
  plainMember p (!visible && !standard)

/- Whether the word for a default comes next, and not an
   expansion of that name. -/
def startsDefault
    (ts : Tokens) : Bool :=
  Ahead.word "default" ts && !Ahead.mark "!" (Ahead.beyond ts)

/- Read a member of an implementation. -/
def implementationMember
    (p : Phrases) : Reader Unit := do
  let _ ← attributes p
  let visible ← visibility
  let standard ← onlyIf startsDefault (word "default")
  plainMember p (!visible && !standard)

/- Whether a foreign variable comes next. -/
def startsForeignStatic
    (ts : Tokens) : Bool :=
  Ahead.word "static" ts ||
    (Ahead.oneOf ["unsafe", "safe"] ts &&
      Ahead.word "static" (Ahead.beyond ts))

/- Read a foreign variable. -/
def foreignStatic
    (p : Phrases) : Reader Unit := do
  let _ ← onlyIf (Ahead.oneOf ["unsafe", "safe"]) (take 1)
  word "static"
  let _ ← wordIf "mut"
  let _ ← name
  mark ":"
  let _ ← p.type true
  givenValue p
  mark ";"

/- Read a member of a foreign block. -/
def foreignMember
    (p : Phrases) : Reader Unit := do
  let _ ← attributes p
  let visible ← visibility
  if ← sees (startsSignature true) then
    signature p true
    bodyOrNone p
  else if ← sees startsForeignStatic then
    foreignStatic p
  else if ← sees (Ahead.word "type") then
    typeItem p true true
  else
    require (!visible)
    expansionMember

/- Read members in braces. -/
def members
    (p : Phrases)
    (r : Reader Unit) : Reader Unit :=
  group .brace (do
    innerAttributes p
    let _ ← repeated (fun ts => !ts.isEmpty) r)

end Item

end TreePath
