import TreePath.Proofs.Tree.Consistent
import TreePath.Proofs.Tree.Entries
import TreePath.Tree.Update

/-
  Slots are where a value keeps others.  A store puts a value
  into one slot and leaves all other slots alone.

  Key definitions include:
    * `Slot`
    * `Value.slot?`
    * `Value.store`
    * `Value.Takes`
    * `Shape.fieldSlot`

  Main statements:
    * `Value.entryCases`
    * `Value.slotCases`
    * `Value.slot?_store_self`
    * `Value.slot?_store_of_ne`
    * `Value.consistent_store`
-/

------------------------------------------------------------
-- Slots
------------------------------------------------------------

namespace TreePath

/-
  A record keeps its fields by place, whether they are
  visible or not.  An object keeps attributes by name, and
  containers keep entries by key.
-/
inductive Slot where
| field (place : Nat)
| attr (name : String)
| entry (key : Key)
deriving DecidableEq, Repr

namespace Value

/- What stands in a slot. -/
def slot?
    (v : Value)
    (slot : Slot) : Option Value :=
  match v, slot with
  | .record _ fields, .field i => fields[i]?
  | .object attributes _, .attr name =>
      attributes.find? name
  | v, .entry key => v.ownEntry? key
  | _, _ => none

/- The same container with another entry. -/
def storeEntry
    (v : Value)
    (key : Key)
    (x : Value) : Value :=
  match v, key with
  | .sequence kind elem items, .index i =>
      .sequence kind elem (items.set i.toNat x)
  | .dictionary kind elem entries, .name name =>
      .dictionary kind elem (Entries.insert name x entries)
  | .json (.object members), .name name =>
      .json (.object
        (Entries.insert name (asJson .null x) members))
  | .json (.array items), .index i =>
      .json (.array (items.set i.toNat (asJson .null x)))
  | .object attributes entries, .name name =>
      .object attributes (Entries.insert name x entries)
  | v, _ => v

/- The same value with another one in a slot. -/
def store
    (v : Value)
    (slot : Slot)
    (x : Value) : Value :=
  match v, slot with
  | .record d fields, .field i => .record d (fields.set i x)
  | .object attributes entries, .attr name =>
      .object (attributes.insert name x) entries
  | v, .entry key => v.storeEntry key x
  | v, _ => v

/- A slot with a key is an entry. -/
@[simp] theorem slot?_entry
    (v : Value)
    (key : Key) :
    v.slot? (.entry key) = v.ownEntry? key := by
  cases v <;> rfl

/- A store in a slot with a key is one of an entry. -/
@[simp] theorem store_entry
    (v : Value)
    (key : Key)
    (x : Value) :
    v.store (.entry key) x = v.storeEntry key x := by
  cases v <;> rfl

/-
  Where a container has room for an entry: at the positions
  that exist and at all names.  Documents take documents.
-/
def TakesEntry
    (v : Value)
    (key : Key)
    (x : Value) : Prop :=
  match v, key with
  | .sequence _ _ items, .index i => i.toNat < items.length
  | .dictionary _ _ _, .name _ => True
  | .json (.object _), .name _ => x.type = .json
  | .json (.array items), .index i =>
      i.toNat < items.length ∧ x.type = .json
  | .object _ _, .name _ => True
  | _, _ => False

/- Where a value has room for another one. -/
def Takes
    (v : Value)
    (slot : Slot)
    (x : Value) : Prop :=
  match v, slot with
  | .record _ fields, .field i => i < fields.length
  | .object _ _, .attr _ => True
  | v, .entry key => v.TakesEntry key x
  | _, _ => False

/- Room in a slot with a key is room for an entry. -/
@[simp] theorem takes_entry
    (v : Value)
    (key : Key)
    (x : Value) :
    v.Takes (.entry key) x = v.TakesEntry key x := by
  cases v <;> rfl

------------------------------------------------------------
-- Slots of Fields
------------------------------------------------------------

end Value

/- The slot of a field: of a record its place, if the field is
   visible, and of an object its name. -/
def Shape.fieldSlot
    (type : Shape)
    (name : String) : Slot :=
  match type with
  | .record d =>
      match d.visible? name with
      | some i => .field i
      | none => .attr name
  | _ => .attr name

/- A place belongs to one visible field. -/
theorem Declaration.visible?_injective
    {σ : Type}
    {d : Declaration σ}
    {first second : String}
    {i : Nat}
    (hFirst : d.visible? first = some i)
    (hSecond : d.visible? second = some i) :
    first = second := by
  unfold visible? at hFirst hSecond
  rw [List.findIdx?_eq_some_iff_getElem] at hFirst hSecond
  rcases hFirst with ⟨_, hFirstName, _⟩
  rcases hSecond with ⟨_, hSecondName, _⟩
  simp only [Bool.and_eq_true, beq_iff_eq]
    at hFirstName hSecondName
  exact hFirstName.2.symm.trans hSecondName.2

/- A slot belongs to one field. -/
theorem Shape.fieldSlot_injective
    {type : Shape}
    {first second : String}
    (hSame : type.fieldSlot first = type.fieldSlot second) :
    first = second := by
  cases type with
  | record d =>
      simp only [fieldSlot] at hSame
      cases hFirst : d.visible? first with
      | none =>
          cases hSecond : d.visible? second with
          | none => simpa [hFirst, hSecond] using hSame
          | some j => simp [hFirst, hSecond] at hSame
      | some i =>
          cases hSecond : d.visible? second with
          | none => simp [hFirst, hSecond] at hSame
          | some j =>
              have hPlace : i = j := by
                simpa [hFirst, hSecond] using hSame
              subst hPlace
              exact
                Declaration.visible?_injective hFirst hSecond
  | _ => simpa [fieldSlot] using hSame

/- The slot of a field is not an entry. -/
theorem Shape.fieldSlot_ne_entry
    (type : Shape)
    (name : String)
    (key : Key) :
    type.fieldSlot name ≠ .entry key := by
  cases type with
  | record d =>
      simp only [fieldSlot]
      cases d.visible? name with
      | none => simp
      | some i => simp
  | _ => simp [fieldSlot]

namespace Value

/- A field stands in its slot. -/
theorem field?_eq_slot?
    (v : Value)
    (name : String) :
    v.field? name = v.slot? (v.shape.fieldSlot name) := by
  cases v with
  | record d fields =>
      simp only [field?, shape, Shape.fieldSlot]
      cases d.visible? name with
      | none => rfl
      | some i => rfl
  | _ => rfl

------------------------------------------------------------
-- Types
------------------------------------------------------------

/- The same declarations make the same type. -/
theorem type_of_shape
    {v x : Value}
    (hShape : x.shape = v.shape) :
    x.type = v.type :=
  congrArg Shape.nominal hShape

/- A type has the same name with and without declarations. -/
@[simp] theorem typeName_type
    (v : Value) :
    v.type.typeName = v.typeName :=
  Shape.typeName_nominal v.shape

/- Only documents have the type of documents. -/
theorem exists_json_of_type
    {v : Value}
    (hType : v.type = .json) :
    ∃ j, v = .json j := by
  cases v with
  | json j => exact ⟨j, rfl⟩
  | _ => simp [type, shape, Shape.nominal] at hType

/-
  A value without an entry slot for a key: nothing is found
  there, and nothing can be put there.
-/
structure LacksEntry
    (v : Value)
    (key : Key) : Prop where
  absent : v.ownEntry? key = none
  noPlace : v.ownEntryPlace? key = none
  unchanged : ∀ x, v.storeEntry key x = v
  full : ∀ x, ¬ v.TakesEntry key x

/- A value without a slot. -/
structure LacksSlot
    (v : Value)
    (slot : Slot) : Prop where
  absent : v.slot? slot = none
  unchanged : ∀ x, v.store slot x = v
  full : ∀ x, ¬ v.Takes slot x

/- The containers and the keys that they answer. -/
@[elab_as_elim] theorem entryCases
    {motive : Value → Key → Prop}
    (sequence :
      ∀ kind elem items i,
        motive (.sequence kind elem items) (.index i))
    (dictionary :
      ∀ kind elem entries name,
        motive (.dictionary kind elem entries) (.name name))
    (document :
      ∀ members name,
        motive (.json (.object members)) (.name name))
    (array :
      ∀ items i, motive (.json (.array items)) (.index i))
    (object :
      ∀ attributes entries name,
        motive (.object attributes entries) (.name name))
    (other : ∀ v key, v.LacksEntry key → motive v key)
    (v : Value)
    (key : Key) :
    motive v key := by
  cases v with
  | sequence kind elem items =>
      cases key with
      | index i => exact sequence kind elem items i
      | name name =>
          exact other _ _ ⟨rfl, rfl, fun _ => rfl, fun _ h => h⟩
  | dictionary kind elem entries =>
      cases key with
      | index i =>
          exact other _ _ ⟨rfl, rfl, fun _ => rfl, fun _ h => h⟩
      | name name => exact dictionary kind elem entries name
  | json j =>
      cases j with
      | object members =>
          cases key with
          | index i =>
              exact
                other _ _ ⟨rfl, rfl, fun _ => rfl, fun _ h => h⟩
          | name name => exact document members name
      | array items =>
          cases key with
          | index i => exact array items i
          | name name =>
              exact
                other _ _ ⟨rfl, rfl, fun _ => rfl, fun _ h => h⟩
      | _ =>
          exact other _ _ ⟨rfl, rfl, fun _ => rfl, fun _ h => h⟩
  | object attributes entries =>
      cases key with
      | index i =>
          exact other _ _ ⟨rfl, rfl, fun _ => rfl, fun _ h => h⟩
      | name name => exact object attributes entries name
  | _ =>
      exact other _ _ ⟨rfl, rfl, fun _ => rfl, fun _ h => h⟩

/- The values and the slots that they have. -/
@[elab_as_elim] theorem slotCases
    {motive : Value → Slot → Prop}
    (record :
      ∀ d fields i, motive (.record d fields) (.field i))
    (object :
      ∀ attributes entries name,
        motive (.object attributes entries) (.attr name))
    (entry : ∀ v key, motive v (.entry key))
    (other : ∀ v slot, v.LacksSlot slot → motive v slot)
    (v : Value)
    (slot : Slot) :
    motive v slot := by
  cases slot with
  | field i =>
      cases v with
      | record d fields => exact record d fields i
      | _ => exact other _ _ ⟨rfl, fun _ => rfl, fun _ h => h⟩
  | attr name =>
      cases v with
      | object attributes entries =>
          exact object attributes entries name
      | _ => exact other _ _ ⟨rfl, fun _ => rfl, fun _ h => h⟩
  | entry key => exact entry v key

/- A new entry leaves the type of a container alone. -/
@[simp] theorem shape_storeEntry
    (v : Value)
    (key : Key)
    (x : Value) :
    (v.storeEntry key x).shape = v.shape := by
  cases v, key using entryCases with
  | other v key hLacks => rw [hLacks.unchanged]
  | _ => rfl

/- A store leaves the type of a value alone. -/
@[simp] theorem shape_store
    (v : Value)
    (slot : Slot)
    (x : Value) :
    (v.store slot x).shape = v.shape := by
  cases v, slot using slotCases with
  | entry v key =>
      rw [store_entry]
      exact shape_storeEntry v key x
  | other v slot hLacks => rw [hLacks.unchanged]
  | _ => rfl

/- The same for the type that is compared. -/
@[simp] theorem type_store
    (v : Value)
    (slot : Slot)
    (x : Value) :
    (v.store slot x).type = v.type :=
  type_of_shape (shape_store v slot x)

------------------------------------------------------------
-- Entries
------------------------------------------------------------

/- What was stored at a key is found there. -/
theorem ownEntry?_storeEntry_self
    {v x : Value}
    {key : Key}
    (hTakes : v.TakesEntry key x) :
    ownEntry? (v.storeEntry key x) key = some x := by
  cases v, key using entryCases with
  | sequence kind elem items i =>
      have hLt : i.toNat < items.length := hTakes
      simp [storeEntry, ownEntry?, hLt]
  | dictionary kind elem entries name =>
      simp [storeEntry, ownEntry?,
        Entries.find?_insert_self]
  | document members name =>
      rcases exists_json_of_type hTakes with ⟨j, rfl⟩
      simp [storeEntry, ownEntry?, asJson,
        Entries.find?_insert_self]
  | array items i =>
      rcases hTakes with ⟨hLt, hJson⟩
      rcases exists_json_of_type hJson with ⟨j, rfl⟩
      simp [storeEntry, ownEntry?, asJson, hLt]
  | object attributes entries name =>
      simp [storeEntry, ownEntry?,
        Entries.find?_insert_self]
  | other v key hLacks => exact absurd hTakes (hLacks.full x)

/- Other positions are other places in a list. -/
theorem toNat_ne_of_ne
    {i j : UInt64}
    (hNe : Key.index j ≠ .index i) :
    i.toNat ≠ j.toNat := by
  intro hSame
  apply hNe
  rw [UInt64.toNat_inj.mp hSame]

/- Inserting a name leaves the other named entries alone. -/
theorem find?_insert_of_key_ne
    {α : Type}
    {name other : String}
    (hNe : Key.name other ≠ .name name)
    (item : α)
    (entries : List (String × α)) :
    Entries.find? other (Entries.insert name item entries) =
      Entries.find? other entries := by
  apply Entries.find?_insert_of_ne
  rintro rfl
  exact hNe rfl

/- The entries at all other keys stay. -/
theorem ownEntry?_storeEntry_of_ne
    {key other : Key}
    (hNe : other ≠ key)
    (v x : Value) :
    ownEntry? (v.storeEntry key x) other =
      v.ownEntry? other := by
  cases v, key using entryCases with
  | sequence kind elem items i =>
      cases other with
      | name other => rfl
      | index j => exact List.getElem?_set_ne (toNat_ne_of_ne hNe)
  | dictionary kind elem entries name =>
      cases other with
      | index j => rfl
      | name other => exact find?_insert_of_key_ne hNe x entries
  | document members name =>
      cases other with
      | index j => rfl
      | name other =>
          simp only [storeEntry, ownEntry?]
          rw [find?_insert_of_key_ne hNe]
  | array items i =>
      cases other with
      | name other => rfl
      | index j =>
          simp only [storeEntry, ownEntry?]
          rw [List.getElem?_set_ne (toNat_ne_of_ne hNe)]
  | object attributes entries name =>
      cases other with
      | index j => rfl
      | name other => exact find?_insert_of_key_ne hNe x entries
  | other v key hLacks => rw [hLacks.unchanged]

/- A new entry leaves the fields alone. -/
theorem slot?_storeEntry_field
    (v : Value)
    (key : Key)
    (x : Value)
    (i : Nat) :
    (v.storeEntry key x).slot? (.field i) =
      v.slot? (.field i) := by
  cases v, key using entryCases with
  | other v key hLacks => rw [hLacks.unchanged]
  | _ => rfl

/- A new entry leaves the attributes alone. -/
theorem slot?_storeEntry_attr
    (v : Value)
    (key : Key)
    (x : Value)
    (name : String) :
    (v.storeEntry key x).slot? (.attr name) =
      v.slot? (.attr name) := by
  cases v, key using entryCases with
  | other v key hLacks => rw [hLacks.unchanged]
  | _ => rfl

/- There is room where an entry is already. -/
theorem takesEntry_of_ownEntry
    {v old x : Value}
    {key : Key}
    (hOld : v.ownEntry? key = some old)
    (hType : x.type = old.type) :
    v.TakesEntry key x := by
  cases v, key using entryCases with
  | sequence kind elem items i =>
      exact (List.getElem?_eq_some_iff.mp hOld).1
  | dictionary kind elem entries name => trivial
  | document members name =>
      rcases Option.map_eq_some_iff.mp hOld with ⟨j, _, rfl⟩
      exact hType
  | array items i =>
      rcases Option.map_eq_some_iff.mp hOld with ⟨j, hItem, rfl⟩
      exact ⟨(List.getElem?_eq_some_iff.mp hItem).1, hType⟩
  | object attributes entries name => trivial
  | other v key hLacks =>
      rw [hLacks.absent] at hOld
      cases hOld

------------------------------------------------------------
-- Stores
------------------------------------------------------------

/- What was stored in a slot is found there. -/
theorem slot?_store_self
    {v x : Value}
    {slot : Slot}
    (hConsistent : v.Consistent)
    (hTakes : v.Takes slot x) :
    (v.store slot x).slot? slot = some x := by
  cases v, slot using slotCases with
  | record d fields i =>
      exact List.getElem?_set_self hTakes
  | object attributes entries name =>
      rw [consistent_object_iff] at hConsistent
      exact Attributes.find?_insert_self hConsistent.1 name x
  | entry v key =>
      rw [takes_entry] at hTakes
      rw [store_entry, slot?_entry]
      exact ownEntry?_storeEntry_self hTakes
  | other v slot hLacks => exact absurd hTakes (hLacks.full x)

/- All other slots stay. -/
theorem slot?_store_of_ne
    {v : Value}
    {slot other : Slot}
    (hConsistent : v.Consistent)
    (hNe : other ≠ slot)
    (x : Value) :
    (v.store slot x).slot? other = v.slot? other := by
  cases v, slot using slotCases with
  | record d fields i =>
      cases other with
      | field j =>
          have hApart : i ≠ j := by
            rintro rfl
            exact hNe rfl
          exact List.getElem?_set_ne hApart
      | attr name => rfl
      | entry key => rfl
  | object attributes entries name =>
      cases other with
      | field i => rfl
      | attr other =>
          have hApart : other ≠ name := by
            rintro rfl
            exact hNe rfl
          rw [consistent_object_iff] at hConsistent
          exact
            Attributes.find?_insert_of_ne hConsistent.1 hApart x
      | entry key => cases key <;> rfl
  | entry v key =>
      cases other with
      | field i =>
          rw [store_entry]
          exact slot?_storeEntry_field v key x i
      | attr name =>
          rw [store_entry]
          exact slot?_storeEntry_attr v key x name
      | entry other =>
          have hApart : other ≠ key := by
            rintro rfl
            exact hNe rfl
          rw [slot?_entry, slot?_entry]
          rw [store_entry]
          exact ownEntry?_storeEntry_of_ne hApart v x
  | other v slot hLacks => rw [hLacks.unchanged]

/- There is room in a slot that holds a value of the type. -/
theorem takes_of_slot?
    {v old x : Value}
    {slot : Slot}
    (hOld : v.slot? slot = some old)
    (hType : x.type = old.type) :
    v.Takes slot x := by
  cases v, slot using slotCases with
  | record d fields i =>
      exact (List.getElem?_eq_some_iff.mp hOld).1
  | object attributes entries name => trivial
  | entry v key =>
      rw [slot?_entry] at hOld
      rw [takes_entry]
      exact takesEntry_of_ownEntry hOld hType
  | other v slot hLacks =>
      rw [hLacks.absent] at hOld
      cases hOld

------------------------------------------------------------
-- Consistency
------------------------------------------------------------

/- The entries of a consistent tree are consistent. -/
theorem consistent_of_ownEntry
    {v child : Value}
    {key : Key}
    (hConsistent : v.Consistent)
    (hChild : v.ownEntry? key = some child) :
    child.Consistent := by
  cases v, key using entryCases with
  | sequence kind elem items i =>
      exact (itemsConsistent_iff items).mp hConsistent child
        (List.mem_of_getElem? hChild)
  | dictionary kind elem entries name =>
      exact (entriesConsistent_iff entries).mp hConsistent _
        (Entries.mem_of_find? hChild)
  | document members name =>
      rcases Option.map_eq_some_iff.mp hChild with ⟨j, _, rfl⟩
      trivial
  | array items i =>
      rcases Option.map_eq_some_iff.mp hChild with ⟨j, _, rfl⟩
      trivial
  | object attributes entries name =>
      rw [consistent_object_iff] at hConsistent
      exact hConsistent.2.2 _ (Entries.mem_of_find? hChild)
  | other v key hLacks =>
      rw [hLacks.absent] at hChild
      cases hChild

/- What stands in a slot of a consistent tree is one. -/
theorem consistent_of_slot?
    {v child : Value}
    {slot : Slot}
    (hConsistent : v.Consistent)
    (hChild : v.slot? slot = some child) :
    child.Consistent := by
  cases v, slot using slotCases with
  | record d fields i =>
      exact (itemsConsistent_iff fields).mp hConsistent child
        (List.mem_of_getElem? hChild)
  | object attributes entries name =>
      rw [consistent_object_iff] at hConsistent
      exact hConsistent.2.1 child
        (Attributes.mem_items_of_find? hChild)
  | entry v key =>
      rw [slot?_entry] at hChild
      exact consistent_of_ownEntry hConsistent hChild
  | other v slot hLacks =>
      rw [hLacks.absent] at hChild
      cases hChild

/- What holds of all items and of a new one holds of all
   items after it was set. -/
theorem forall_mem_set
    {p : Value → Prop}
    {items : List Value}
    {x : Value}
    (hOld : ∀ item ∈ items, p item)
    (hNew : p x)
    (i : Nat) :
    ∀ item ∈ items.set i x, p item := by
  intro item hMem
  rcases List.mem_or_eq_of_mem_set hMem with hIn | rfl
  · exact hOld item hIn
  · exact hNew

/- The same for entries. -/
theorem forall_mem_insert
    {p : Value → Prop}
    {entries : List (String × Value)}
    {x : Value}
    (hOld : ∀ entry ∈ entries, p entry.2)
    (hNew : p x)
    (name : String) :
    ∀ entry ∈ Entries.insert name x entries, p entry.2 := by
  intro entry hMem
  rcases Entries.mem_insert hMem with rfl | hIn
  · exact hNew
  · exact hOld entry hIn

/- Lists stay consistent if a consistent item goes in. -/
theorem itemsConsistent_set
    {items : List Value}
    {x : Value}
    (hItems : ItemsConsistent items)
    (hNew : x.Consistent)
    (i : Nat) :
    ItemsConsistent (items.set i x) := by
  rw [itemsConsistent_iff] at hItems ⊢
  exact forall_mem_set hItems hNew i

/- The same for entries. -/
theorem entriesConsistent_insert
    {entries : List (String × Value)}
    {x : Value}
    (hEntries : EntriesConsistent entries)
    (hNew : x.Consistent)
    (name : String) :
    EntriesConsistent (Entries.insert name x entries) := by
  rw [entriesConsistent_iff] at hEntries ⊢
  exact forall_mem_insert hEntries hNew name

/- A new entry keeps a container consistent. -/
theorem consistent_storeEntry
    {v x : Value}
    (hConsistent : v.Consistent)
    (hNew : x.Consistent)
    (key : Key) :
    (v.storeEntry key x).Consistent := by
  cases v, key using entryCases with
  | sequence kind elem items i =>
      exact itemsConsistent_set hConsistent hNew i.toNat
  | dictionary kind elem entries name =>
      exact entriesConsistent_insert hConsistent hNew name
  | document members name => trivial
  | array items i => trivial
  | object attributes entries name =>
      rcases hConsistent with ⟨hAttributes, hItems, hEntries⟩
      exact ⟨hAttributes, hItems,
        entriesConsistent_insert hEntries hNew name⟩
  | other v key hLacks =>
      rw [hLacks.unchanged]
      exact hConsistent

/- A store keeps a value consistent. -/
theorem consistent_store
    {v x : Value}
    (hConsistent : v.Consistent)
    (hNew : x.Consistent)
    (slot : Slot) :
    (v.store slot x).Consistent := by
  cases v, slot using slotCases with
  | record d fields i =>
      exact itemsConsistent_set hConsistent hNew i
  | object attributes entries name =>
      rw [consistent_object_iff] at hConsistent
      rcases hConsistent with ⟨hAttributes, hItems, hEntries⟩
      apply (consistent_object_iff _ _).mpr
      refine ⟨?_, ?_, hEntries⟩
      · exact Attributes.consistent_insert hAttributes name x
      · intro v hMem
        rcases Attributes.mem_items_insert hMem with rfl | hOld
        · exact hNew
        · exact hItems v hOld
  | entry v key =>
      rw [store_entry]
      exact consistent_storeEntry hConsistent hNew key
  | other v slot hLacks =>
      rw [hLacks.unchanged]
      exact hConsistent

end Value

end TreePath
