import TreePath.Tree.Entries

/-
  This file defines attributes: items with names, in the
  order in which the names first came up.  An index leads
  from each name to its place.

  Key definitions include:
    * `Attributes`
    * `Attributes.place?`
    * `Attributes.find?`
    * `Attributes.insert`
-/

namespace TreePath

------------------------------------------------------------
-- Attributes
------------------------------------------------------------

/-
  The items and their names stand in two lists of the same
  order; `places` gives the position of each name in them.
-/
structure Attributes (α : Type) where
  items : List α
  names : List String
  places : List (String × Nat)
deriving Repr

namespace Attributes

variable {α : Type}

/- No attributes. -/
def empty : Attributes α :=
  ⟨[], [], []⟩

/- The number of attributes. -/
def size
    (a : Attributes α) : Nat :=
  a.items.length

/- The place of a name. -/
def place?
    (a : Attributes α)
    (name : String) : Option Nat :=
  Entries.find? name a.places

/- The item of a name. -/
def find?
    (a : Attributes α)
    (name : String) : Option α :=
  match a.place? name with
  | none => none
  | some i => a.items[i]?

/- Put another item at a place. -/
def set
    (a : Attributes α)
    (i : Nat)
    (item : α) : Attributes α :=
  { a with items := a.items.set i item }

/-
  Give a name an item.  A known name keeps its place; a new
  one comes last.
-/
def insert
    (a : Attributes α)
    (name : String)
    (item : α) : Attributes α :=
  match a.place? name with
  | some i => a.set i item
  | none =>
      { items := a.items ++ [item]
        names := a.names ++ [name]
        places :=
          Entries.insert name a.items.length a.places }

end Attributes

end TreePath
