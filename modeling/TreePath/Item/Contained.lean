import TreePath.Item.Member

/-
  This file defines the reading of the items that blocks and
  other items contain.

  Key definitions include:
    * `Item.imports`
    * `Item.traitItem`
    * `Item.implementationItem`
    * `Item.item`
-/

namespace TreePath

namespace Item

open Reader

------------------------------------------------------------
-- Imports
------------------------------------------------------------

/- Read another name behind its word, if there is one. -/
def otherName : Reader Unit := do
  if ← wordIf "as" then
    nameOrBlank

/- Whether a segment of an import comes next. -/
def startsImport
    (ts : Tokens) : Bool :=
  Ahead.name ts ||
    Ahead.oneOf ["self", "super", "crate", "try"] ts

/- Read what is imported; colons may stand in front of it
   where that is allowed. -/
def imports
    (p : Phrases)
    (rooted : Bool) : Reader Unit := do
  if ← sees startsImport then
    take 1
    if ← markIf "::" then
      p.imports false
    else
      otherName
  else if ← markIf "*" then
    pure ()
  else
    group .brace (commaList (do
      let led ← if rooted then markIf "::" else pure false
      p.imports (rooted && !led)))

/- Read an import. -/
def importItem
    (p : Phrases) : Reader Unit := do
  word "use"
  let led ← markIf "::"
  p.imports (!led)
  mark ";"

/- Read the import of another crate. -/
def crateItem : Reader Unit := do
  word "extern"
  word "crate"
  if !(← wordIf "self") then
    let _ ← name
  otherName
  mark ";"

------------------------------------------------------------
-- Functions and Variables
------------------------------------------------------------

/- Read a function. -/
def functionItem
    (p : Phrases) : Reader Unit := do
  signature p false
  bodyOrNone p

/- Read a variable of the whole program; its type or its value
   may be left out. -/
def staticItem
    (p : Phrases) : Reader Unit := do
  word "static"
  let _ ← wordIf "mut"
  let _ ← name
  let typed ← sees (fun ts => !Ahead.mark "=" ts)
  if typed then
    mark ":"
    let _ ← p.type true
  if !(typed && (← sees (Ahead.mark ";"))) then
    mark "="
    let _ ← p.expression true
  mark ";"

------------------------------------------------------------
-- Modules and Foreign Blocks
------------------------------------------------------------

/- Read a block of foreign items. -/
def foreignItem
    (p : Phrases) : Reader Unit := do
  let _ ← wordIf "unsafe"
  require (← sees (Ahead.word "extern"))
  convention
  members p (foreignMember p)

/- Read a module. -/
def moduleItem
    (p : Phrases) : Reader Unit := do
  let _ ← wordIf "unsafe"
  word "mod"
  if !(← wordIf "try") then
    let _ ← name
  if !(← markIf ";") then
    members p p.item

------------------------------------------------------------
-- Traits and Implementations
------------------------------------------------------------

/- Whether the bounds of a trait are at their end. -/
def endsTraitBounds
    (ts : Tokens) : Bool :=
  Ahead.word "where" ts || Ahead.group .brace ts

/- Whether the bounds for which a name stands are at their
   end. -/
def endsAliasBounds
    (ts : Tokens) : Bool :=
  Ahead.word "where" ts || Ahead.mark ";" ts

/- Read a trait, or a name for bounds. -/
def traitItem
    (p : Phrases) : Reader Unit := do
  let plain ← sees (Ahead.word "trait")
  let _ ← wordIf "unsafe"
  let _ ← wordIf "auto"
  word "trait"
  let _ ← name
  let _ ← parameters p
  if plain && (← sees (Ahead.mark "=")) then
    mark "="
    typeBounds p endsAliasBounds
    let _ ← conditions p
    mark ";"
  else
    givenBounds p endsTraitBounds
    let _ ← conditions p
    members p (traitMember p)

/- Whether the mark of an implementation for constants comes
   next. -/
def startsConstantMark
    (ts : Tokens) : Bool :=
  Ahead.word "const" ts ||
    (Ahead.mark "?" ts && Ahead.word "const" (Ahead.beyond ts))

/- Whether the sign of a trait that is not implemented comes
   next. -/
def startsRefusal
    (ts : Tokens) : Bool :=
  Ahead.mark "!" ts && !Ahead.group .brace (Ahead.beyond ts)

/- Read an implementation. -/
def implementationItem
    (p : Phrases) : Reader Unit := do
  let _ ← wordIf "default"
  let _ ← wordIf "unsafe"
  word "impl"
  if ← sees Ahead.parameters then
    let _ ← parameters p
  if ← sees startsConstantMark then
    let _ ← markIf "?"
    word "const"
  let refused ← onlyIf startsRefusal (mark "!")
  let _ ← p.type true
  if ← wordIf "for" then
    let _ ← p.type true
  else
    require (!refused)
  let _ ← conditions p
  members p (implementationMember p)

------------------------------------------------------------
-- Expansions
------------------------------------------------------------

/- Read the declaration of an expansion. -/
def expansionItem : Reader Unit := do
  word "macro"
  let _ ← name
  let _ ←
    onlyIf (Ahead.group .paren) (group .paren everything)
  group .brace everything

/- Read the call of an expansion, which may declare a name. -/
def expansionCallItem : Reader Unit := do
  let _ ← plainPath
  mark "!"
  let _ ←
    onlyIf
      (fun ts => Ahead.name ts || Ahead.word "try" ts)
      (take 1)
  let (d, _) ← anyGroup
  if d ≠ .brace then
    mark ";"

------------------------------------------------------------
-- Items
------------------------------------------------------------

/- The tokens behind a visibility. -/
def beyondVisibility
    (ts : Tokens) : Tokens :=
  match visibility ts with
  | some read => read.rest
  | none => []

/- Whether a struct, an enumeration or a union comes next. -/
def startsDeclared
    (ts : Tokens) : Bool :=
  Ahead.oneOf ["struct", "enum"] ts ||
    (Ahead.word "union" ts && Ahead.name (Ahead.beyond ts))

/- The tokens behind the words for an unsafe and for an
   automatic item. -/
def beyondItemWords
    (ts : Tokens) : Tokens :=
  let behind := beyondWord "unsafe" ts
  if Ahead.word "auto" behind &&
      Ahead.word "trait" (behind.drop 1)
  then behind.drop 1
  else behind

/- Whether an implementation comes next. -/
def startsImplementation
    (ts : Tokens) : Bool :=
  Ahead.word "impl" ts || startsDefault ts

/- Read an item whose kind follows from its first word. -/
def wordItem
    (p : Phrases)
    (ahead : Tokens) : Reader Unit := do
  let kind := beyondItemWords ahead
  if startsSignature false ahead then
    functionItem p
  else if Ahead.word "extern" ahead &&
      Ahead.word "crate" (Ahead.beyond ahead) then
    crateItem
  else if Ahead.word "use" ahead then
    importItem p
  else if Ahead.word "static" ahead then
    staticItem p
  else if Ahead.word "const" ahead then
    constantItem p
  else if Ahead.word "type" ahead then
    typeItem p true false
  else if Ahead.word "mod" kind then
    moduleItem p
  else if Ahead.word "trait" kind then
    traitItem p
  else if startsImplementation kind then
    implementationItem p
  else
    expansionItem

/- Whether the kind of an item follows from its first word. -/
def startsWordItem
    (ts : Tokens) : Bool :=
  startsSignature false ts ||
    Ahead.oneOf
      [ "use", "static", "const", "type", "mod", "trait",
        "impl", "macro" ] ts ||
    (Ahead.word "extern" ts &&
      Ahead.word "crate" (Ahead.beyond ts)) ||
    (Ahead.word "unsafe" ts &&
      !Ahead.word "extern" (Ahead.beyond ts)) ||
    (Ahead.word "auto" ts &&
      Ahead.word "trait" (Ahead.beyond ts)) ||
    startsDefault ts

/- Read an item. -/
def item
    (p : Phrases) : Reader Unit := do
  let ahead ←
    sees (fun ts => beyondVisibility (beyondAttributes ts))
  if startsDeclared ahead then
    let _ ← Declared.read p
  else
    let _ ← attributes p
    if startsWordItem ahead then
      let _ ← visibility
      wordItem p ahead
    else if Ahead.oneOf ["extern", "unsafe"] ahead then
      foreignItem p
    else
      expansionCallItem

end Item

end TreePath
