import TreePath.Proofs.Tree.Leads

/-
  To put back what is already there changes nothing, be it in
  a slot or at a place.

  Main statements:
    * `Value.store_of_slot?`
    * `Place.Leads.put_node`
-/

------------------------------------------------------------
-- Attributes
------------------------------------------------------------

namespace TreePath

/- To insert an attribute that is there changes nothing. -/
theorem Attributes.insert_of_find?
    {α : Type}
    {a : Attributes α}
    {name : String}
    {item : α}
    (hFound : a.find? name = some item) :
    a.insert name item = a := by
  unfold find? at hFound
  split at hFound
  · cases hFound
  · rename_i i hPlace
    rw [insert_of_place?_eq_some hPlace]
    unfold set
    rw [set_of_getElem? hFound]

------------------------------------------------------------
-- Slots
------------------------------------------------------------

namespace Value

/- To store an entry that is there changes nothing. -/
theorem storeEntry_of_ownEntry?
    {v child : Value}
    {key : Key}
    (hChild : v.ownEntry? key = some child) :
    v.storeEntry key child = v := by
  cases v, key using entryCases with
  | sequence kind elem items i =>
      exact congrArg _ (set_of_getElem? hChild)
  | dictionary kind elem entries name =>
      exact congrArg _ (Entries.insert_of_find? hChild)
  | document members name =>
      rcases Option.map_eq_some_iff.mp hChild with
        ⟨j, hMember, rfl⟩
      simp only [storeEntry, asJson]
      rw [Entries.insert_of_find? hMember]
  | array items i =>
      rcases Option.map_eq_some_iff.mp hChild with
        ⟨j, hItem, rfl⟩
      simp only [storeEntry, asJson]
      rw [set_of_getElem? hItem]
  | object attributes entries name =>
      exact congrArg _ (Entries.insert_of_find? hChild)
  | other v key hLacks => exact hLacks.unchanged child

/- To store what stands in a slot changes nothing. -/
theorem store_of_slot?
    {v child : Value}
    {slot : Slot}
    (hChild : v.slot? slot = some child) :
    v.store slot child = v := by
  cases v, slot using slotCases with
  | record d fields i =>
      exact congrArg _ (set_of_getElem? hChild)
  | object attributes entries name =>
      simp only [store]
      rw [Attributes.insert_of_find? hChild]
  | entry v key =>
      rw [slot?_entry] at hChild
      rw [store_entry]
      exact storeEntry_of_ownEntry? hChild
  | other v slot hLacks => exact hLacks.unchanged child

end Value

/- A place to which nothing new is put leaves its value. -/
theorem Place.Leads.put_node
    {place : Place}
    {v : Value}
    {slot : Slot}
    (hLeads : place.Leads v slot) :
    place.put place.node = v := by
  rw [hLeads.put place.node rfl]
  exact Value.store_of_slot? hLeads.node

end TreePath
