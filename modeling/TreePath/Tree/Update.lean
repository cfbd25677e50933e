import TreePath.Tree.Place

/-
  This file defines writes into a value and the reasons to
  refuse them.

  Key definitions include:
    * `AssignError`
    * `Update`
    * `Value.overwrite`
    * `Value.setField`
    * `Value.setOwnEntry`
-/

namespace TreePath

------------------------------------------------------------
-- Refusals
------------------------------------------------------------

/- Why a value could not be written. -/
inductive AssignError where
| indexOutOfBounds
    (index : UInt64)
    (size : Nat)
    (typeName : String)
| invalidKey (key : Key) (typeName : String)
| notKeyed (typeName : String)
| noFields (typeName : String)
| unknownField (field : String) (typeName : String)
| mismatchedTypes (expected found : String)
deriving DecidableEq, Repr

namespace AssignError

/- The wording of a refusal. -/
def message : AssignError → String
| .indexOutOfBounds index size typeName =>
    let i := toString index.toNat
    s!"index {i} is out of bounds for `{typeName}` " ++
      s!"of length {size}"
| .invalidKey key typeName =>
    let text := key.render
    s!"key `{text}` is not valid for `{typeName}`"
| .notKeyed typeName =>
    s!"`{typeName}` does not support item assignment"
| .noFields typeName =>
    s!"`{typeName}` has no named fields"
| .unknownField field typeName =>
    s!"`{typeName}` has no field named `{field}`"
| .mismatchedTypes expected found =>
    s!"mismatched types: expected `{expected}`, " ++
      s!"found `{found}`"

end AssignError

------------------------------------------------------------
-- Updates
------------------------------------------------------------

/-
  The value that stands there after a write, and whether the
  write was refused.
-/
structure Update (ε : Type) where
  node : Value
  result : Except ε Unit

namespace Update

variable {ε ε' : Type}

/- A write that took place. -/
def done
    (v : Value) : Update ε :=
  ⟨v, .ok ()⟩

/- A write that was refused. -/
def refuse
    (v : Value)
    (e : ε) : Update ε :=
  ⟨v, .error e⟩

/- Change the reason of a refusal. -/
def mapError
    (f : ε → ε')
    (u : Update ε) : Update ε' :=
  ⟨u.node, u.result.mapError f⟩

/- A write at a place, seen from the larger value. -/
def within
    (place : Place)
    (u : Update ε) : Update ε :=
  ⟨place.put u.node, u.result⟩

end Update

namespace Value

------------------------------------------------------------
-- Overwriting
------------------------------------------------------------

/-
  Replace a value by one of exactly its type.  A value of
  another type is handed back.
-/
def overwrite
    (v x : Value) : Update Value :=
  if x.type = v.type then .done x else .refuse v x

/- Overwrite a slot, and name both types on refusal. -/
def overwriteSlot
    (slot x : Value) : Update AssignError :=
  (slot.overwrite x).mapError
    (fun rejected =>
      .mismatchedTypes slot.typeName rejected.typeName)

------------------------------------------------------------
-- Fields
------------------------------------------------------------

/-
  Write a field.  An object takes any name and any value; a
  record has its fields overwritten.
-/
def setField
    (v : Value)
    (name : String)
    (x : Value) : Update AssignError :=
  match v with
  | .object attributes entries =>
      .done (.object (attributes.insert name x) entries)
  | .record d fields =>
      match (Value.record d fields).fieldPlace? name with
      | none => .refuse v (.unknownField name v.typeName)
      | some place =>
          (place.node.overwriteSlot x).within place
  | v => .refuse v (.noFields v.typeName)

------------------------------------------------------------
-- Entries
------------------------------------------------------------

/- Write an item of a sequence that is already there. -/
def setItem
    (v : Value)
    (items : List Value)
    (rebuild : List Value → Value)
    (key : Key)
    (x : Value) : Update AssignError :=
  match key with
  | .name _ => .refuse v (.invalidKey key v.typeName)
  | .index i =>
      match itemPlace? items rebuild i.toNat with
      | none =>
          .refuse v
            (.indexOutOfBounds i items.length v.typeName)
      | some place =>
          (place.node.overwriteSlot x).within place

/-
  Write an entry of a document.  The value is checked before
  the key.
-/
def setJsonEntry
    (j : Json)
    (key : Key)
    (x : Value) : Update AssignError :=
  let v := Value.json j
  match x with
  | .json new =>
      match j, key with
      | .object members, .name name =>
          .done (.json
            (.object (Entries.insert name new members)))
      | .object _, .index _ =>
          .refuse v (.invalidKey key v.typeName)
      | .array items, .index i =>
          if i.toNat < items.length then
            .done (.json (.array (items.set i.toNat new)))
          else
            .refuse v
              (.indexOutOfBounds i items.length v.typeName)
      | .array _, .name _ =>
          .refuse v (.invalidKey key v.typeName)
      | _, _ => .refuse v (.notKeyed v.typeName)
  | x =>
      .refuse v
        (.mismatchedTypes Shape.json.typeName x.typeName)

/-
  Write an entry of a container.  Dictionaries and objects
  take new names; the key is checked before the value.
-/
def setOwnEntry
    (v : Value)
    (key : Key)
    (x : Value) : Update AssignError :=
  match v with
  | .sequence kind elem items =>
      setItem v items (.sequence kind elem) key x
  | .dictionary kind elem entries =>
      match key with
      | .index _ => .refuse v (.invalidKey key v.typeName)
      | .name name =>
          if x.type = elem.nominal then
            .done (.dictionary kind elem
              (Entries.insert name x entries))
          else
            .refuse v
              (.mismatchedTypes elem.typeName x.typeName)
  | .json j => setJsonEntry j key x
  | .object attributes entries =>
      match key with
      | .index _ => .refuse v (.invalidKey key v.typeName)
      | .name name =>
          .done (.object attributes
            (Entries.insert name x entries))
  | v => .refuse v (.notKeyed v.typeName)

end Value

end TreePath
