import TreePath.Tree.Update

/-
  This file defines how keys are answered.  Containers do so
  in their own ways; a record does so by code that is written
  by hand for its type, so that all that is said of records
  holds for any such code.

  Key definitions include:
    * `KeyPlace`
    * `KeyCode`
    * `RecordKeys`
    * `Value.isKeyed`
    * `Value.entry?`
    * `Value.keyCount?`
    * `Value.entryPlace?`
    * `Value.setEntry`
-/

namespace TreePath

------------------------------------------------------------
-- Keys of Records
------------------------------------------------------------

/-
  An entry among the fields of a record that may be changed
  in place: the value that stands there, and the fields with
  another value put there.  Until then nothing has changed.
-/
structure KeyPlace (fields : List Value) where
  node : Value
  put : Value → List Value
  put_node : put node = fields
  length_put : ∀ x, (put x).length = fields.length

/-
  Code that answers keys for a record, in terms of the fields
  of the record.  It finds an entry, finds one that may be
  changed, counts the entries and writes one; a write that is
  refused leaves the fields as they are.  The two ways to
  find an entry agree, and no field ever comes or goes.
-/
structure KeyCode where
  find? : List Value → Key → Option Value
  place? :
    (fields : List Value) → Key → Option (KeyPlace fields)
  count : List Value → Nat
  set :
    List Value → Key → Value →
      Except AssignError (List Value)
  map_node_place? :
    ∀ fields key,
      (place? fields key).map KeyPlace.node = find? fields key
  length_set :
    ∀ {fields key x after},
      set fields key x = .ok after →
        after.length = fields.length

/- The code of the record types that answer keys. -/
class RecordKeys where
  code? : Declaration Shape → Option KeyCode

/- An entry among the fields is a place in the record. -/
def KeyPlace.within
    {fields : List Value}
    (place : KeyPlace fields)
    (d : Declaration Shape) : Place :=
  ⟨place.node, fun x => .record d (place.put x)⟩

------------------------------------------------------------
-- Entries
------------------------------------------------------------

namespace Value

variable [RecordKeys]

/- Containers answer keys, and records with code for it. -/
def isKeyed : Value → Bool
| .record d _ => (RecordKeys.code? d).isSome
| v => v.isContainer

/- The entry at a key. -/
def entry?
    (v : Value)
    (key : Key) : Option Value :=
  match v with
  | .record d fields =>
      match RecordKeys.code? d with
      | none => none
      | some code => code.find? fields key
  | v => v.ownEntry? key

/- The number of entries. -/
def keyCount : Value → Nat
| .record d fields =>
    match RecordKeys.code? d with
    | none => 0
    | some code => code.count fields
| v => v.ownCount

/- The number of entries, if there can be any. -/
def keyCount?
    (v : Value) : Option Nat :=
  if v.isKeyed then some v.keyCount else none

/- The place of the entry at a key. -/
def entryPlace?
    (v : Value)
    (key : Key) : Option Place :=
  match v with
  | .record d fields =>
      match RecordKeys.code? d with
      | none => none
      | some code =>
          (code.place? fields key).map (·.within d)
  | v => v.ownEntryPlace? key

/- Write an entry. -/
def setEntry
    (v : Value)
    (key : Key)
    (x : Value) : Update AssignError :=
  match v with
  | .record d fields =>
      match RecordKeys.code? d with
      | none => .refuse v (.notKeyed v.typeName)
      | some code =>
          match code.set fields key x with
          | .ok after => .done (.record d after)
          | .error e => .refuse v e
  | v => v.setOwnEntry key x

end Value

end TreePath
