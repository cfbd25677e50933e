import TreePath.Tree.Keyed

/-
  This file defines code for the keys of records that passes
  each key on to a field.  It is what records with a
  delegation use unless other code is given.

  Key definitions include:
    * `Delegation.field`
    * `FieldAt`
    * `KeyCode.forwarding`
    * `RecordKeys.forwarding`
-/

namespace TreePath

------------------------------------------------------------
-- Fields That Answer Keys
------------------------------------------------------------

/- The name of the field that answers a key. -/
def Delegation.field
    (rule : Delegation) : Key → String
| .index _ => rule.positions
| .name _ => rule.names

/- One of the fields of a record, with its place. -/
structure FieldAt (fields : List Value) where
  index : Nat
  value : Value
  found : fields[index]? = some value

namespace FieldAt

variable {fields : List Value}

/- A place inside a field is one among the fields. -/
def keyPlace
    (field : FieldAt fields)
    (place : Place)
    (hPut : place.put place.node = field.value) :
    KeyPlace fields where
  node := place.node
  put x := fields.set field.index (place.put x)
  put_node := by
    rw [hPut]
    exact set_of_getElem? field.found
  length_put x := List.length_set

end FieldAt

/- The field of a name, visible or not. -/
def Declaration.fieldAt?
    (d : Declaration Shape)
    (name : String)
    (fields : List Value) : Option (FieldAt fields) :=
  match d.place? name with
  | none => none
  | some i =>
      match hFound : fields[i]? with
      | none => none
      | some v => some ⟨i, v, hFound⟩

------------------------------------------------------------
-- Forwarding
------------------------------------------------------------

namespace KeyCode

variable (d : Declaration Shape) (rule : Delegation)

/- The entry that the field for a key has at the key. -/
def forwardedEntry?
    (fields : List Value)
    (key : Key) : Option Value :=
  match d.fieldAt? (rule.field key) fields with
  | none => none
  | some field => field.value.ownEntry? key

/- Its place, inside the field. -/
def forwardedPlace?
    (fields : List Value)
    (key : Key) : Option (KeyPlace fields) :=
  match d.fieldAt? (rule.field key) fields with
  | none => none
  | some field =>
      (field.value.ownEntryPlace? key).pmap field.keyPlace
        (fun _ => Value.put_node_of_ownEntryPlace?)

/- The entries of the field for positions and of that for
   names. -/
def forwardedCount
    (fields : List Value) : Nat :=
  let count (name : String) : Nat :=
    match d.fieldAt? name fields with
    | none => 0
    | some field => field.value.ownCount
  count rule.positions + count rule.names

/- A write to the field for a key. -/
def forwardedSet
    (fields : List Value)
    (key : Key)
    (x : Value) : Except AssignError (List Value) :=
  match d.fieldAt? (rule.field key) fields with
  | none => .error (.notKeyed d.typeName)
  | some field =>
      let update := field.value.setOwnEntry key x
      match update.result with
      | .ok _ => .ok (fields.set field.index update.node)
      | .error e => .error e

/- Whether it may be changed or not, the same entry is found. -/
theorem map_node_forwardedPlace?
    (fields : List Value)
    (key : Key) :
    (forwardedPlace? d rule fields key).map KeyPlace.node =
      forwardedEntry? d rule fields key := by
  unfold forwardedPlace? forwardedEntry?
  cases d.fieldAt? (rule.field key) fields with
  | none => rfl
  | some field =>
      simp only [Option.map_pmap]
      rw [← Value.map_node_ownEntryPlace?]
      exact Option.pmap_eq_map _ _ _ _

/- A write to a field leaves as many fields. -/
theorem length_forwardedSet
    {fields after : List Value}
    {key : Key}
    {x : Value}
    (hSet : forwardedSet d rule fields key x = .ok after) :
    after.length = fields.length := by
  unfold forwardedSet at hSet
  split at hSet
  · cases hSet
  · simp only at hSet
    split at hSet
    · rcases Except.ok.inj hSet with rfl
      exact List.length_set
    · cases hSet

/- Code that passes every key on to the field for it. -/
def forwarding : KeyCode where
  find? := forwardedEntry? d rule
  place? := forwardedPlace? d rule
  count := forwardedCount d rule
  set := forwardedSet d rule
  map_node_place? := map_node_forwardedPlace? d rule
  length_set := length_forwardedSet d rule

end KeyCode

/- Records with a delegation pass their keys on. -/
instance (priority := low) RecordKeys.forwarding :
    RecordKeys where
  code? d := d.delegation.map (KeyCode.forwarding d)

end TreePath
