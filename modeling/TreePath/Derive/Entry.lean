import TreePath.Derive.Error
import TreePath.Item.Grammar

/-
  This file defines the entries of the attributes that steer
  a derivation, and how they are read.

  Every reader yields the entries in order, up to and with
  the first thing that is wrong.

  Key definitions include:
    * `ItemEntry`
    * `FieldEntry`
    * `Item.piecesOf`
    * `ItemEntry.ofAttributes`
    * `FieldEntry.ofAttributes`
-/

namespace TreePath

/- An item can be marked as one with entries by key. -/
inductive ItemEntry where
| keyed
deriving DecidableEq, Repr

/- A field can be left out or shown under another name. -/
inductive FieldEntry where
| skip
| rename (name : String)
deriving DecidableEq, Repr

namespace Item

------------------------------------------------------------
-- Pieces
------------------------------------------------------------

/- Cut tokens behind every comma. -/
def piecesOf : Tokens → List Tokens
| [] => []
| .mark ',' j :: ts => [.mark ',' j] :: piecesOf ts
| t :: ts =>
    match piecesOf ts with
    | [] => [[t]]
    | piece :: pieces => (t :: piece) :: pieces

/- Read the segments of a path behind its first one. -/
def laterSegments :
    Tokens → Except DeriveError (List String × Tokens)
| .mark ':' true :: .mark ':' _ :: .name text :: ts =>
    (laterSegments ts).map
      (fun (texts, rest) => (text :: texts, rest))
| .mark ':' true :: .mark ':' _ :: [] => .error .missingSegment
| .mark ':' true :: .mark ':' _ :: _ => .error .strangeSegment
| ts => .ok ([], ts)

/- Read the path of an entry, which may begin with colons. -/
def entryPath
    (ts : Tokens) :
    Except DeriveError (List String × Tokens) :=
  let rooted := Ahead.mark "::" ts
  let root := if rooted then [""] else []
  match (if rooted then ts.drop 2 else ts) with
  | .name text :: ts =>
      (laterSegments ts).map
        (fun (texts, rest) => (root ++ text :: texts, rest))
  | [] => .error .missingEntry
  | ts =>
      if Ahead.literal ts then .error .literalForEntry
      else .error .strangeEntry

/- What is wrong if there is more than an entry in a piece. -/
def behindEntry
    {α : Type}
    (rest : Tokens) : List (Except DeriveError α) :=
  if rest.isEmpty || Ahead.mark "," rest then []
  else [.error .missingComma]

/- Read the entry in a piece. -/
def entriesOfPiece
    {α : Type}
    (read : List String → Tokens →
      Except DeriveError (α × Tokens))
    (piece : Tokens) : List (Except DeriveError α) :=
  match entryPath piece with
  | .error e => [.error e]
  | .ok (path, rest) =>
      match read path rest with
      | .error e => [.error e]
      | .ok (entry, rest) => .ok entry :: behindEntry rest

/- Read the entries of an attribute; only one whose path is
   the single name `node` has any. -/
def entriesOf
    {α : Type}
    (read : List String → Tokens →
      Except DeriveError (α × Tokens))
    (a : Attribute) : List (Except DeriveError α) :=
  if a.path = ["node"] then
    match a.arguments with
    | .none => [.error .noList]
    | .value _ => [.error .valueForList]
    | .list content =>
        (piecesOf content).flatMap (entriesOfPiece read)
  else []

end Item

open Item

------------------------------------------------------------
-- Entries of Items
------------------------------------------------------------

namespace ItemEntry

/- Read an entry of an item; nothing belongs to its path. -/
def read
    (path : List String)
    (rest : Tokens) :
    Except DeriveError (ItemEntry × Tokens) :=
  if path = ["keyed"] then .ok (.keyed, rest)
  else .error .unknownItemEntry

/- The entries of the attributes of an item. -/
def ofAttributes
    (attributes : List Attribute) :
    List (Except DeriveError ItemEntry) :=
  attributes.flatMap (entriesOf read)

end ItemEntry

------------------------------------------------------------
-- Entries of Fields
------------------------------------------------------------

namespace FieldEntry

/- Read the name that a field is given. -/
def readName : Tokens → Except DeriveError (String × Tokens)
| [] => .error .missingText
| .literal l :: rest =>
    match l.value with
    | none => .error .strangeText
    | some name =>
        if name.isEmpty then .error .emptyName
        else .ok (name, rest)
| _ => .error .strangeText

/- Read an entry of a field. -/
def read
    (path : List String)
    (rest : Tokens) :
    Except DeriveError (FieldEntry × Tokens) :=
  if path = ["skip"] then .ok (.skip, rest)
  else if path = ["rename"] then
    if Ahead.mark "=" rest then
      (readName (rest.drop 1)).map
        (fun (name, rest) => (.rename name, rest))
    else .error .missingEquals
  else .error .unknownFieldEntry

/- The entries of the attributes of a field. -/
def ofAttributes
    (attributes : List Attribute) :
    List (Except DeriveError FieldEntry) :=
  attributes.flatMap (entriesOf read)

end FieldEntry

end TreePath
