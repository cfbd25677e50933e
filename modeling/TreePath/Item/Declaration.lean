import TreePath.Item.Parameters
import TreePath.Item.Type

/-
  This file defines the items of a program text that a
  derivation can be asked for, and how they are read.

  Key definitions include:
    * `Item.Field`
    * `Item.Body`
    * `Declared`
    * `Item.visibility`
    * `Item.namedFields`
    * `Declared.read`
-/

namespace TreePath

namespace Item

------------------------------------------------------------
-- Items
------------------------------------------------------------

/- A named field; its type is not kept. -/
structure Field where
  attributes : List Attribute
  name : String

/- Only the fields of a struct with named ones are kept. -/
inductive Body where
| fields (fields : List Field)
| other

end Item

/- An item with its attributes, name, parameters and body. -/
structure Declared where
  attributes : List Item.Attribute
  name : String
  generics : Item.Generics
  body : Item.Body

namespace Item

open Reader

------------------------------------------------------------
-- Visibility
------------------------------------------------------------

/- Whether brackets behind a visibility name a place. -/
def namesPlace : Tokens → Bool
| [.name text] =>
    text == "crate" || text == "self" || text == "super"
| _ => false

/- Whether something comes next to which a visibility is
   restricted. -/
def startsRestriction : Tokens → Bool
| .group .paren content :: _ =>
    namesPlace content || Ahead.word "in" content
| _ => false

/- Read what a visibility is restricted to. -/
def restriction : Reader Unit := do
  if ← wordIf "in" then
    let _ ← plainPath
  else
    take 1

/- Read a visibility, and whether there is one. -/
def visibility : Reader Bool :=
  onlyIf (Ahead.word "pub") (do
    word "pub"
    if ← sees startsRestriction then
      group .paren restriction)

------------------------------------------------------------
-- Fields
------------------------------------------------------------

/- Whether the fields of a nested struct come next. -/
def startsNestedFields
    (ts : Tokens) : Bool :=
  Ahead.word "struct" ts ||
    (Ahead.word "union" ts &&
      Ahead.group .brace (Ahead.beyond ts))

/-
  Read a named field.  One that is named by an underscore may
  have the fields of a nested struct in place of a type.
-/
def field
    (p : Phrases) : Reader Field := do
  let read ← attributes p
  let _ ← visibility
  let blank ← sees (Ahead.word "_")
  let name ← if blank then anyName else name
  mark ":"
  if blank && (← sees startsNestedFields) then
    verbatim (do
      take 1
      p.fields)
  else
    let _ ← p.type true
  pure ⟨read, name⟩

/- Read named fields in braces. -/
def namedFields
    (p : Phrases) : Reader (List Field) :=
  group .brace (do
    let read ← listed List.isEmpty "," (field p)
    pure (read.map Prod.fst))

/- Read a field without a name. -/
def unnamedField
    (p : Phrases) : Reader Unit := do
  let _ ← attributes p
  let _ ← visibility
  let _ ← p.type true

/- Read fields without names in round brackets. -/
def unnamedFields
    (p : Phrases) : Reader Unit :=
  group .paren (commaList (unnamedField p))

/- Read a variant of an enumeration. -/
def variant
    (p : Phrases) : Reader Unit := do
  let _ ← attributes p
  let _ ← visibility
  let _ ← name
  if ← sees (Ahead.group .brace) then
    let _ ← namedFields p
  else if ← sees (Ahead.group .paren) then
    unnamedFields p
  if ← markIf "=" then
    let _ ← p.expression true

------------------------------------------------------------
-- Bodies
------------------------------------------------------------

/- The body of an item, with its conditions. -/
structure Tail where
  conditions : List Tokens
  lastComma : Bool
  body : Body

/- Read what follows the parameters of a struct. -/
def structTail
    (p : Phrases) : Reader Tail := do
  let conditioned ← sees (Ahead.word "where")
  let (before, comma) ← conditions p
  if ← sees (Ahead.group .brace) then
    let fields ← namedFields p
    pure ⟨before, comma, .fields fields⟩
  else if ← markIf ";" then
    pure ⟨before, comma, .other⟩
  else
    require (!conditioned)
    unnamedFields p
    let (behind, comma) ← conditions p
    mark ";"
    pure ⟨behind, comma, .other⟩

/- Read what follows the parameters of an enumeration. -/
def enumTail
    (p : Phrases) : Reader Tail := do
  let (before, comma) ← conditions p
  group .brace (commaList (variant p))
  pure ⟨before, comma, .other⟩

/- Read what follows the parameters of a union. -/
def unionTail
    (p : Phrases) : Reader Tail := do
  let (before, comma) ← conditions p
  let _ ← namedFields p
  pure ⟨before, comma, .other⟩

/- Read what follows the parameters of an item of the kind
   that a word names. -/
def tail
    (p : Phrases) : String → Reader Tail
| "struct" => structTail p
| "enum" => enumTail p
| "union" => unionTail p
| _ => fail

end Item

------------------------------------------------------------
-- Whole Items
------------------------------------------------------------

namespace Declared

open Item Reader

/- Read an item. -/
def read
    (p : Phrases) : Reader Declared := do
  let attributes ← Item.attributes p
  let _ ← visibility
  let kind ← anyName
  let name ← Reader.name
  let parameters ← parameters p
  let tail ← tail p kind
  pure
    { attributes := attributes
      name := name
      generics :=
        ⟨parameters, tail.conditions, tail.lastComma⟩
      body := tail.body }

end Declared

end TreePath
