import TreePath.Item.Phrases

/-
  This file defines attributes, and how they are read.

  Key definitions include:
    * `Item.Arguments`
    * `Item.Attribute`
    * `Item.plainPath`
    * `Item.attributes`
    * `Item.innerAttributes`
-/

namespace TreePath

namespace Item

open Reader

------------------------------------------------------------
-- Attributes
------------------------------------------------------------

/- What follows the path of an attribute. -/
inductive Arguments where
| none
| list (content : Tokens)
| value (content : Tokens)

/-
  An attribute has a path; one with leading colons is never a
  single name.
-/
structure Attribute where
  path : List String
  arguments : Arguments

------------------------------------------------------------
-- Plain Paths
------------------------------------------------------------

/- Read a segment without arguments. -/
def plainSegment : Reader String := do
  require (← sees Ahead.segment)
  anyName

/- Read a path without arguments. -/
def plainPath : Reader (List String) := do
  let rooted ← markIf "::"
  let first ← plainSegment
  let more ←
    repeated (Ahead.mark "::") (do
      mark "::"
      plainSegment)
  pure ((if rooted then [""] else []) ++ first :: more)

------------------------------------------------------------
-- Reading
------------------------------------------------------------

/- Read the path of an attribute; one reserved word is also
   allowed. -/
def attributePath : Reader (List String) := do
  if ← wordIf "unsafe" then
    pure ["unsafe"]
  else
    plainPath

/- Whether a literal is all that comes next. -/
def isLoneLiteral
    (ts : Tokens) : Bool :=
  match literal ts with
  | some read => read.rest.isEmpty
  | none => false

/- Whether an attribute comes next that is no value. -/
def startsAttribute
    (ts : Tokens) : Bool :=
  Ahead.outerAttribute ts &&
    Ahead.group .bracket (Ahead.beyond ts)

/- Read the value of an attribute: a literal or another
   expression without attributes of its own. -/
def attributeValue
    (p : Phrases) : Reader Unit := do
  if ← sees isLoneLiteral then
    literal
  else
    require (!(← sees startsAttribute))
    let _ ← p.expression true

/- Whether the value of an attribute comes next. -/
def startsValue
    (ts : Tokens) : Bool :=
  Ahead.mark "=" ts && !Ahead.mark "==" ts &&
    !Ahead.mark "=>" ts

/- Read an attribute between its brackets. -/
def attributeContent
    (p : Phrases) : Reader Attribute := do
  let path ← attributePath
  if ← sees Ahead.anyGroup then
    let (_, content) ← anyGroup
    pure ⟨path, .list content⟩
  else if ← sees startsValue then
    mark "="
    let (_, content) ← noted (attributeValue p)
    pure ⟨path, .value content⟩
  else
    pure ⟨path, .none⟩

/- Read attributes of what follows them. -/
def attributes
    (p : Phrases) : Reader (List Attribute) :=
  repeated Ahead.outerAttribute (do
    mark "#"
    group .bracket (attributeContent p))

/- Read attributes of what they are in. -/
def innerAttributes
    (p : Phrases) : Reader Unit := do
  let _ ←
    repeated Ahead.innerAttribute (do
      mark "#"
      mark "!"
      group .bracket (attributeContent p))

/- The tokens behind attributes. -/
def beyondAttributes : Tokens → Tokens
| .mark '#' _ :: .group .bracket _ :: ts => beyondAttributes ts
| ts => ts

------------------------------------------------------------
-- Blocks
------------------------------------------------------------

/- Read a block. -/
def block
    (p : Phrases) : Reader Unit :=
  group .brace p.statements

/- Read a block that may begin with attributes of it. -/
def attributedBlock
    (p : Phrases) : Reader Unit :=
  group .brace (do
    innerAttributes p
    p.statements)

end Item

end TreePath
