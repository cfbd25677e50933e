import TreePath.Path.Key
import TreePath.Tree.Value

/-
  This file defines the two ways to look into a value: by the
  name of a field and, in a container, by the key of an entry.

  Key definitions include:
    * `Value.hasFields`
    * `Value.fieldNames?`
    * `Value.field?`
    * `Value.isContainer`
    * `Value.ownEntry?`
    * `Value.ownCount`
-/

namespace TreePath

namespace Value

------------------------------------------------------------
-- Fields
------------------------------------------------------------

/- Objects and records have fields. -/
def hasFields : Value → Bool
| .object _ _ => true
| .record _ _ => true
| _ => false

/- The names of the visible fields, in order. -/
def fieldNames? : Value → Option (List String)
| .object attributes _ => some attributes.names
| .record d _ => some d.visibleNames
| _ => none

/- The visible field of a name. -/
def field?
    (v : Value)
    (name : String) : Option Value :=
  match v with
  | .object attributes _ => attributes.find? name
  | .record d fields =>
      match d.visible? name with
      | none => none
      | some i => fields[i]?
  | _ => none

------------------------------------------------------------
-- Entries
------------------------------------------------------------

/-
  Containers that answer keys of their own accord.  A
  document does so if it holds an object or an array.
-/
def isContainer : Value → Bool
| .sequence _ _ _ => true
| .dictionary _ _ _ => true
| .json (.object _) => true
| .json (.array _) => true
| .object _ _ => true
| _ => false

/- The entry of a container at a key. -/
def ownEntry?
    (v : Value)
    (key : Key) : Option Value :=
  match v, key with
  | .sequence _ _ items, .index i => items[i.toNat]?
  | .dictionary _ _ entries, .name name =>
      Entries.find? name entries
  | .json (.object members), .name name =>
      (Entries.find? name members).map Value.json
  | .json (.array items), .index i =>
      items[i.toNat]?.map Value.json
  | .object _ entries, .name name =>
      Entries.find? name entries
  | _, _ => none

/- The number of entries of a container. -/
def ownCount : Value → Nat
| .sequence _ _ items => items.length
| .dictionary _ _ entries => entries.length
| .json (.object members) => members.length
| .json (.array items) => items.length
| .object _ entries => entries.length
| _ => 0

end Value

end TreePath
