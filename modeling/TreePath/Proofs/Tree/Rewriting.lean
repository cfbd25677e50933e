import TreePath.Proofs.Tree.Acceptance

/-
  Stores in slots one after another.  The later of two stores
  in one slot wins, and stores in two slots do not depend on
  their order, as long as nothing new is stored.

  Main statements:
    * `Value.store_store`
    * `Value.store_comm`
    * `Value.takes_store`
-/

------------------------------------------------------------
-- Entries
------------------------------------------------------------

namespace TreePath

namespace Entries

variable {α : Type} {name other : String}
variable {entries : List (String × α)}

/- The later of two replacements wins. -/
theorem replace_replace
    (name : String)
    (first second : α)
    (entries : List (String × α)) :
    replace name second (replace name first entries) =
      replace name second entries := by
  induction entries with
  | nil => rfl
  | cons entry entries ih =>
      rcases entry with ⟨key, old⟩
      by_cases hKey : key = name
      · simp [replace, hKey]
      · simp [replace, hKey, ih]

/- A new entry may be replaced before it is put anywhere. -/
theorem replace_place
    (hNew : find? name entries = none)
    (first second : α) :
    replace name second (place name first entries) =
      place name second entries := by
  induction entries with
  | nil => simp [place, replace]
  | cons entry entries ih =>
      rcases entry with ⟨key, old⟩
      by_cases hKey : key = name
      · simp [find?, hKey] at hNew
      · simp only [find?, hKey, if_false] at hNew
        by_cases hLess : name < key
        · simp [place, replace, hLess]
        · simp [place, replace, hLess, hKey, ih hNew]

/- The later of two insertions wins. -/
theorem insert_insert
    (name : String)
    (first second : α)
    (entries : List (String × α)) :
    insert name second (insert name first entries) =
      insert name second entries := by
  rw [insert_eq_replace (find?_insert_self name first entries)]
  cases hFound : find? name entries with
  | some old =>
      rw [insert_eq_replace hFound, insert_eq_replace hFound]
      exact replace_replace name first second entries
  | none =>
      simp only [insert, hFound]
      exact replace_place hFound first second

/- Replacements of two entries may be swapped. -/
theorem replace_comm
    (hNe : other ≠ name)
    (first second : α)
    (entries : List (String × α)) :
    replace other second (replace name first entries) =
      replace name first (replace other second entries) := by
  induction entries with
  | nil => rfl
  | cons entry entries ih =>
      rcases entry with ⟨key, old⟩
      by_cases hKey : key = name
      · simp [replace, hKey, hNe.symm]
      · by_cases hOther : key = other
        · simp [replace, hOther, hNe]
        · simp [replace, hKey, hOther, ih]

/- So may insertions of two entries that are there. -/
theorem insert_comm
    {old older : α}
    (hNe : other ≠ name)
    (hFound : find? name entries = some old)
    (hOther : find? other entries = some older)
    (first second : α) :
    insert other second (insert name first entries) =
      insert name first (insert other second entries) := by
  have hFoundAfter :
      find? name (insert other second entries) = some old := by
    rw [find?_insert_of_ne hNe.symm, hFound]
  have hOtherAfter :
      find? other (insert name first entries) =
        some older := by
    rw [find?_insert_of_ne hNe, hOther]
  rw [insert_eq_replace hFoundAfter,
    insert_eq_replace hOtherAfter, insert_eq_replace hFound,
    insert_eq_replace hOther]
  exact replace_comm hNe first second entries

end Entries

------------------------------------------------------------
-- Attributes
------------------------------------------------------------

namespace Attributes

variable {α : Type} {a : Attributes α} {name other : String}

/- The later of two insertions wins. -/
theorem insert_insert
    (a : Attributes α)
    (name : String)
    (first second : α) :
    (a.insert name first).insert name second =
      a.insert name second := by
  cases hPlace : a.place? name with
  | some i =>
      have hAfter : (a.set i first).place? name = some i :=
        hPlace
      rw [insert_of_place?_eq_some hPlace,
        insert_of_place?_eq_some hPlace,
        insert_of_place?_eq_some hAfter]
      simp [set]
  | none =>
      have hAfter :
          (a.insert name first).place? name =
            some a.items.length := by
        rw [insert_of_place?_eq_none hPlace]
        exact Entries.find?_insert_self name _ a.places
      rw [insert_of_place?_eq_some hAfter,
        insert_of_place?_eq_none hPlace,
        insert_of_place?_eq_none hPlace]
      simp [set]

/- What is found has a place. -/
theorem exists_place_of_find?
    {item : α}
    (hFound : a.find? name = some item) :
    ∃ i, a.place? name = some i := by
  unfold find? at hFound
  split at hFound
  · cases hFound
  · rename_i i hPlace
    exact ⟨i, hPlace⟩

/- Insertions of two names that are known may be swapped. -/
theorem insert_comm
    {item older : α}
    (hConsistent : a.Consistent)
    (hNe : other ≠ name)
    (hFound : a.find? name = some item)
    (hOther : a.find? other = some older)
    (first second : α) :
    (a.insert name first).insert other second =
      (a.insert other second).insert name first := by
  rcases exists_place_of_find? hFound with ⟨i, hPlace⟩
  rcases exists_place_of_find? hOther with ⟨j, hOtherPlace⟩
  have hApart : i ≠ j := by
    rintro rfl
    exact hNe (hConsistent.place_injective hPlace hOtherPlace)
  -- To set an item leaves the places alone.
  have hAfter : (a.set j second).place? name = some i := hPlace
  have hOtherAfter : (a.set i first).place? other = some j :=
    hOtherPlace
  rw [insert_of_place?_eq_some hPlace,
    insert_of_place?_eq_some hOtherPlace,
    insert_of_place?_eq_some hAfter,
    insert_of_place?_eq_some hOtherAfter]
  unfold set
  rw [List.set_comm first second hApart]

end Attributes

------------------------------------------------------------
-- Slots
------------------------------------------------------------

namespace Value

variable {v x y : Value} {key other : Key}

/- The later of two entries at a key stays. -/
theorem storeEntry_storeEntry
    (v : Value)
    (key : Key)
    (x y : Value) :
    (v.storeEntry key x).storeEntry key y =
      v.storeEntry key y := by
  cases v, key using entryCases with
  | sequence kind elem items i => simp [storeEntry]
  | dictionary kind elem entries name =>
      simp [storeEntry, Entries.insert_insert]
  | document members name =>
      simp [storeEntry, Entries.insert_insert]
  | array items i => simp [storeEntry]
  | object attributes entries name =>
      simp [storeEntry, Entries.insert_insert]
  | other v key hLacks =>
      rw [hLacks.unchanged, hLacks.unchanged]

/- The later of two values in a slot stays. -/
theorem store_store
    (v : Value)
    (slot : Slot)
    (x y : Value) :
    (v.store slot x).store slot y = v.store slot y := by
  cases v, slot using slotCases with
  | record d fields i => simp [store]
  | object attributes entries name =>
      simp [store, Attributes.insert_insert]
  | entry v key =>
      simp only [store_entry]
      exact storeEntry_storeEntry v key x y
  | other v slot hLacks =>
      rw [hLacks.unchanged, hLacks.unchanged]

/- Other names are other texts. -/
theorem text_ne_of_ne
    {name other : String}
    (hNe : Key.name other ≠ .name name) :
    other ≠ name := by
  rintro rfl
  exact hNe rfl

/- Entries that are there may be stored in either order. -/
theorem storeEntry_comm
    {child older : Value}
    (hNe : other ≠ key)
    (hChild : v.ownEntry? key = some child)
    (hOther : v.ownEntry? other = some older)
    (x y : Value) :
    (v.storeEntry key x).storeEntry other y =
      (v.storeEntry other y).storeEntry key x := by
  cases v, key using entryCases with
  | sequence kind elem items i =>
      cases other with
      | name other => cases hOther
      | index j =>
          simp only [storeEntry]
          rw [List.set_comm x y (toNat_ne_of_ne hNe)]
  | dictionary kind elem entries name =>
      cases other with
      | index j => cases hOther
      | name other =>
          simp only [storeEntry]
          rw [Entries.insert_comm (text_ne_of_ne hNe) hChild
            hOther]
  | document members name =>
      cases other with
      | index j => cases hOther
      | name other =>
          rcases Option.map_eq_some_iff.mp hChild with
            ⟨j, hMember, _⟩
          rcases Option.map_eq_some_iff.mp hOther with
            ⟨k, hOtherMember, _⟩
          simp only [storeEntry]
          rw [Entries.insert_comm (text_ne_of_ne hNe) hMember
            hOtherMember]
  | array items i =>
      cases other with
      | name other => cases hOther
      | index j =>
          simp only [storeEntry]
          rw [List.set_comm _ _ (toNat_ne_of_ne hNe)]
  | object attributes entries name =>
      cases other with
      | index j => cases hOther
      | name other =>
          simp only [storeEntry]
          rw [Entries.insert_comm (text_ne_of_ne hNe) hChild
            hOther]
  | other v key hLacks =>
      rw [hLacks.absent] at hChild
      cases hChild

/- An object keeps attributes and entries apart. -/
theorem store_attr_entry
    (attributes : Attributes Value)
    (entries : List (String × Value))
    (name : String)
    (key : Key)
    (x y : Value) :
    ((object attributes entries).store (.attr name) x).store
        (.entry key) y =
      ((object attributes entries).store (.entry key) y).store
        (.attr name) x := by
  cases key with
  | index i => rfl
  | name other => rfl

/- Values that are there may be stored in either order. -/
theorem store_comm
    {slot other : Slot}
    {child older : Value}
    (hConsistent : v.Consistent)
    (hNe : other ≠ slot)
    (hChild : v.slot? slot = some child)
    (hOther : v.slot? other = some older)
    (x y : Value) :
    (v.store slot x).store other y =
      (v.store other y).store slot x := by
  cases v, slot using slotCases with
  | record d fields i =>
      cases other with
      | field j =>
          have hApart : i ≠ j := by
            rintro rfl
            exact hNe rfl
          simp only [store]
          rw [List.set_comm x y hApart]
      | attr name => cases hOther
      | entry key => cases hOther
  | object attributes entries name =>
      cases other with
      | field j => cases hOther
      | attr other =>
          have hApart : other ≠ name := by
            rintro rfl
            exact hNe rfl
          rw [consistent_object_iff] at hConsistent
          simp only [store]
          rw [Attributes.insert_comm hConsistent.1 hApart hChild
            hOther]
      | entry key =>
          exact store_attr_entry attributes entries name key x y
  | entry v key =>
      cases other with
      | field j =>
          cases v with
          | record d fields => cases hChild
          | _ => cases hOther
      | attr other =>
          cases v with
          | object attributes entries =>
              exact
                (store_attr_entry attributes entries other key
                  y x).symm
          | _ => cases hOther
      | entry other =>
          have hApart : other ≠ key := by
            rintro rfl
            exact hNe rfl
          rw [slot?_entry] at hChild hOther
          simp only [store_entry]
          exact storeEntry_comm hApart hChild hOther x y
  | other v slot hLacks =>
      rw [hLacks.absent] at hChild
      cases hChild

/- A new entry takes no room from others. -/
theorem takesEntry_storeEntry
    (hTakes : v.TakesEntry key x)
    (other : Key)
    (y : Value) :
    (v.storeEntry other y).TakesEntry key x := by
  cases v, other using entryCases with
  | sequence kind elem items i =>
      cases key with
      | name name => exact hTakes
      | index j => simpa [storeEntry, TakesEntry] using hTakes
  | dictionary kind elem entries name =>
      cases key with
      | index j => exact hTakes
      | name other => trivial
  | document members name =>
      cases key with
      | index j => exact hTakes
      | name other => exact hTakes
  | array items i =>
      cases key with
      | name name => exact hTakes
      | index j => simpa [storeEntry, TakesEntry] using hTakes
  | object attributes entries name =>
      cases key with
      | index j => exact hTakes
      | name other => trivial
  | other v other hLacks =>
      rw [hLacks.unchanged]
      exact hTakes

/- A store takes no room from other values. -/
theorem takes_store
    {slot : Slot}
    (hTakes : v.Takes slot x)
    (other : Slot)
    (y : Value) :
    (v.store other y).Takes slot x := by
  cases slot with
  | field i =>
      cases v with
      | record d fields =>
          cases other with
          | field j => simpa [store, Takes] using hTakes
          | attr name => exact hTakes
          | entry key => exact hTakes
      | _ => cases hTakes
  | attr name =>
      cases v with
      | object attributes entries =>
          cases other with
          | field j => trivial
          | attr other => trivial
          | entry key =>
              cases key with
              | index j => trivial
              | name other => trivial
      | _ => cases hTakes
  | entry key =>
      rw [takes_entry] at hTakes ⊢
      cases v, other using slotCases with
      | record d fields j => cases hTakes
      | object attributes entries name =>
          cases key with
          | index i => exact hTakes
          | name other => trivial
      | entry v other =>
          rw [store_entry]
          exact takesEntry_storeEntry hTakes other y
      | other v other hLacks =>
          rw [hLacks.unchanged]
          exact hTakes

/- What is written at a key may be written after another
   write there or elsewhere. -/
theorem setOwnEntry_storeEntry
    (hTyped : v.WellTyped)
    (hNew : x.WellTyped)
    (hFirst : (v.setOwnEntry key x).result = .ok ())
    (hSecond : (v.setOwnEntry other y).result = .ok ()) :
    (v.storeEntry key x).setOwnEntry other y =
      .done ((v.storeEntry key x).storeEntry other y) := by
  rcases setOwnEntry_eq_done hFirst with ⟨_, hSuits, _⟩
  rcases setOwnEntry_eq_done hSecond with
    ⟨hTakes, hSuitsNext, _⟩
  apply setOwnEntry_of_takesEntry
  · exact wellTyped_storeEntry hTyped hNew (hSuits hTyped)
  · exact takesEntry_storeEntry hTakes key x
  · rw [shape_storeEntry]
    exact hSuitsNext hTyped

end Value

end TreePath
