import TreePath.Proofs.Tree.Selector

/-
  What a write to one child does to the value that has the
  child, seen from outside.

  Key definitions include:
    * `Value.Grows`
    * `Value.Stored`

  Main statements:
    * `Value.Writes.stored_child`
-/

------------------------------------------------------------
-- New Children
------------------------------------------------------------

namespace TreePath

namespace Selector

/- The name that a value gains with a child, if any. -/
def newNames : Selector → List String
| .field name => [name]
| .entry _ => []

/- The number of entries that a value gains with a child. -/
def newEntries : Selector → Nat
| .field _ => 0
| .entry _ => 1

end Selector

namespace Value

section Growth

variable [RecordKeys]

/-
  Dictionaries, the objects of documents and objects have room
  for names that they do not know yet.  The code of a record
  may make room for a new key.
-/
inductive Grows : Value → Selector → Prop
| dictionary
    (kind : DictionaryKind)
    (elem : Shape)
    (entries : List (String × Value))
    (name : String) :
    Grows (.dictionary kind elem entries) (.entry (.name name))
| document
    (members : List (String × Json))
    (name : String) :
    Grows (.json (.object members)) (.entry (.name name))
| attr
    (attributes : Attributes Value)
    (entries : List (String × Value))
    (name : String) :
    Grows (.object attributes entries) (.field name)
| item
    (attributes : Attributes Value)
    (entries : List (String × Value))
    (name : String) :
    Grows (.object attributes entries) (.entry (.name name))
| answered
    {d : Declaration Shape}
    {fields : List Value}
    {code : KeyCode}
    (hCode : RecordKeys.code? d = some code)
    (key : Key) :
    Grows (.record d fields) (.entry key)

/-
  All other children stay, and with a field all data of the
  value outside that field.  A value whose child is new is one
  that grows, and it gains that child and no other, a new
  attribute as the last; else it has as many as before.
-/
structure Stored
    (v : Value)
    (selector : Selector)
    (x v' : Value) : Prop where
  shape : v'.shape = v.shape
  stored : v'.child? selector = some x
  others :
    ∀ other, other ≠ selector →
      v'.child? other = v.child? other
  hidden :
    ∀ name slot, selector = .field name →
      slot ≠ v.shape.fieldSlot name →
        v'.slot? slot = v.slot? slot
  kept :
    (v.child? selector).isSome →
      v'.fieldNames? = v.fieldNames? ∧
        v'.ownCount = v.ownCount
  grown :
    v.child? selector = none →
      v.Grows selector ∧
        v'.fieldNames? =
          v.fieldNames?.map (· ++ selector.newNames) ∧
        (v.isContainer = true →
          v'.ownCount = v.ownCount + selector.newEntries)

end Growth

------------------------------------------------------------
-- Entries
------------------------------------------------------------

/- A new entry leaves the names of the fields alone. -/
theorem fieldNames?_storeEntry
    (v : Value)
    (key : Key)
    (x : Value) :
    (v.storeEntry key x).fieldNames? = v.fieldNames? := by
  cases v, key using entryCases with
  | other v key hLacks => rw [hLacks.unchanged]
  | _ => rfl

/- Entries are counted once, however often they are stored. -/
theorem ownCount_storeEntry
    {v x : Value}
    {key : Key}
    (hTakes : v.TakesEntry key x) :
    (v.storeEntry key x).ownCount =
      v.ownCount +
        if ( v.ownEntry? key).isSome then 0 else 1 := by
  cases v, key using entryCases with
  | sequence kind elem items i =>
      have hLt : i.toNat < items.length := hTakes
      simp [storeEntry, ownCount, ownEntry?, hLt]
  | dictionary kind elem entries name =>
      exact Entries.length_insert name x entries
  | document members name =>
      simp [storeEntry, ownCount, ownEntry?,
        Entries.length_insert]
  | array items i =>
      rcases hTakes with ⟨hLt, _⟩
      simp [storeEntry, ownCount, ownEntry?, hLt]
  | object attributes entries name =>
      exact Entries.length_insert name x entries
  | other v key hLacks => exact absurd hTakes (hLacks.full x)

/- A container with room for a new entry is one that grows. -/
theorem grows_of_takesEntry
    [RecordKeys]
    {v x : Value}
    {key : Key}
    (hTakes : v.TakesEntry key x)
    (hNew : v.ownEntry? key = none) :
    v.Grows (.entry key) := by
  cases v, key using entryCases with
  | sequence kind elem items i =>
      have hLt : i.toNat < items.length := hTakes
      simp [ ownEntry?, hLt] at hNew
  | dictionary kind elem entries name => constructor
  | document members name => constructor
  | array items i =>
      rcases hTakes with ⟨hLt, _⟩
      simp [ ownEntry?, hLt] at hNew
  | object attributes entries name => constructor
  | other v key hLacks => exact absurd hTakes (hLacks.full x)

/- A store of an entry that there was room for. -/
theorem grown_storeEntry
    [RecordKeys]
    {v x : Value}
    {key : Key}
    (hTakes : v.TakesEntry key x)
    (hNew : v.ownEntry? key = none) :
    v.Grows (.entry key) ∧
      (v.storeEntry key x).fieldNames? =
        v.fieldNames?.map (· ++ []) ∧
      (v.storeEntry key x).ownCount = v.ownCount + 1 := by
  refine ⟨grows_of_takesEntry hTakes hNew, ?_, ?_⟩
  · rw [fieldNames?_storeEntry]
    simp
  · rw [ownCount_storeEntry hTakes, hNew]
    rfl

------------------------------------------------------------
-- Fields
------------------------------------------------------------

/- A store in the slot of a field leaves the entries alone. -/
theorem ownCount_store_fieldSlot
    (v : Value)
    (name : String)
    (x : Value) :
    (v.store (v.shape.fieldSlot name) x).ownCount =
      v.ownCount := by
  cases v with
  | record d fields =>
      simp only [shape, Shape.fieldSlot]
      cases d.visible? name with
      | none => rfl
      | some i => rfl
  | _ => rfl

/- The names of the fields after a store in the slot of one. -/
theorem fieldNames?_store_fieldSlot
    {v x : Value}
    {name : String}
    (hConsistent : v.Consistent)
    (hTakes : v.Takes (v.shape.fieldSlot name) x) :
    (v.store (v.shape.fieldSlot name) x).fieldNames? =
      if (v.slot? (v.shape.fieldSlot name)).isSome then
        v.fieldNames?
      else v.fieldNames?.map (· ++ [name]) := by
  cases v with
  | object attributes entries =>
      rw [consistent_object_iff] at hConsistent
      have hNames :=
        Attributes.names_insert hConsistent.1 name x
      by_cases hFound : (attributes.find? name).isSome
      · simp [shape, Shape.fieldSlot, store, fieldNames?, slot?,
          hNames, hFound]
      · simp [shape, Shape.fieldSlot, store, fieldNames?, slot?,
          hNames, hFound]
  | record d fields =>
      rcases exists_visible_of_takes hTakes with
        ⟨i, _, hLt, hSlot⟩
      simp [shape, hSlot, store, fieldNames?, slot?, hLt]
  | _ => cases hTakes

/- A value with room for a new field is one that grows. -/
theorem grows_of_takes_fieldSlot
    [RecordKeys]
    {v x : Value}
    {name : String}
    (hTakes : v.Takes (v.shape.fieldSlot name) x)
    (hNew : v.slot? (v.shape.fieldSlot name) = none) :
    v.Grows (.field name) := by
  cases v with
  | object attributes entries => constructor
  | record d fields =>
      rcases exists_visible_of_takes hTakes with
        ⟨i, _, hLt, hSlot⟩
      simp [shape, hSlot, slot?, hLt] at hNew
  | _ => cases hTakes

------------------------------------------------------------
-- Writes
------------------------------------------------------------

section Writes

variable [RecordKeys]
variable {v x v' : Value} {selector : Selector}

/- A write to a child that is there keeps the number of
   children. -/
theorem Writes.kept
    (hWrites : v.Writes selector x v')
    (hConsistent : v.Consistent)
    (hOld : (v.child? selector).isSome) :
    v'.fieldNames? = v.fieldNames? ∧
      v'.ownCount = v.ownCount := by
  cases v, selector using selectorCases with
  | slot v selector slot hSlot =>
      rw [child?_eq_slot? hSlot] at hOld
      rcases hWrites.stored hSlot with ⟨hTakes, _, rfl⟩
      cases selector with
      | field name =>
          rcases Shape.eq_fieldSlot_of_slotFor? hSlot with rfl
          rw [fieldNames?_store_fieldSlot hConsistent hTakes,
            if_pos hOld]
          exact ⟨rfl, ownCount_store_fieldSlot v name x⟩
      | entry key =>
          rcases Shape.eq_entry_of_slotFor? hSlot with rfl
          rw [slot?_entry] at hOld
          rw [takes_entry] at hTakes
          rw [store_entry, ownCount_storeEntry hTakes,
            if_pos hOld]
          exact ⟨fieldNames?_storeEntry v key x, rfl⟩
  | key d fields code key hCode =>
      rcases (writes_entry_record_iff hCode).mp hWrites with
        ⟨written, _, rfl⟩
      exact ⟨rfl, rfl⟩

/- A write to a new child adds it and no other. -/
theorem Writes.grown
    (hWrites : v.Writes selector x v')
    (hConsistent : v.Consistent)
    (hNew : v.child? selector = none) :
    v.Grows selector ∧
      v'.fieldNames? =
        v.fieldNames?.map (· ++ selector.newNames) ∧
      (v.isContainer = true →
        v'.ownCount = v.ownCount + selector.newEntries) := by
  cases v, selector using selectorCases with
  | slot v selector slot hSlot =>
      rw [child?_eq_slot? hSlot] at hNew
      rcases hWrites.stored hSlot with ⟨hTakes, _, rfl⟩
      cases selector with
      | field name =>
          rcases Shape.eq_fieldSlot_of_slotFor? hSlot with rfl
          have hGrows := grows_of_takes_fieldSlot hTakes hNew
          have hNames :=
            fieldNames?_store_fieldSlot hConsistent hTakes
          rw [hNew] at hNames
          exact
            ⟨hGrows, hNames,
              fun _ => ownCount_store_fieldSlot v name x⟩
      | entry key =>
          rcases Shape.eq_entry_of_slotFor? hSlot with rfl
          rw [slot?_entry] at hNew
          rw [takes_entry] at hTakes
          rw [store_entry]
          rcases grown_storeEntry hTakes hNew with
            ⟨hGrows, hNames, hCount⟩
          exact ⟨hGrows, hNames, fun _ => hCount⟩
  | key d fields code key hCode =>
      rcases (writes_entry_record_iff hCode).mp hWrites with
        ⟨written, _, rfl⟩
      refine ⟨.answered hCode key, ?_, ?_⟩
      · simp [fieldNames?, Selector.newNames]
      · intro hContainer
        cases hContainer

/- A write to a child is seen in that child only. -/
theorem Writes.stored_child
    [SeparateKeys]
    (hWrites : v.Writes selector x v')
    (hValid : v.Valid) :
    v.Stored selector x v' := by
  constructor
  case shape => exact hWrites.shape_eq
  case stored => exact hWrites.child?_self hValid.consistent
  case others =>
    intro other hNe
    exact hWrites.child?_of_ne hValid hNe
  case hidden =>
    rintro name slot rfl hNe
    rcases hWrites.stored rfl with ⟨_, _, rfl⟩
    exact slot?_store_of_ne hValid.consistent hNe x
  case kept => exact hWrites.kept hValid.consistent
  case grown => exact hWrites.grown hValid.consistent

/- Positions of containers are never new. -/
theorem Stored.ownCount_of_index
    {i : UInt64}
    (hStored : v.Stored (.entry (.index i)) x v') :
    v'.ownCount = v.ownCount := by
  cases hOld : v.child? (.entry (.index i)) with
  | some old =>
      exact (hStored.kept (by rw [hOld]; rfl)).2
  | none =>
      rcases hStored.grown hOld with ⟨hGrows, _⟩
      cases hGrows with
      | answered hCode key =>
          have hShape := hStored.shape
          cases v' with
          | record d' fields' => rfl
          | _ => cases hShape

end Writes

end Value

end TreePath
