import TreePath.Proofs.Tree.Slot

/-
  Places of fields and of the entries of containers are slots:
  what they show stands there, and to put a value there is to
  store it there.

  Key definitions include:
    * `Place.Leads`

  Main statements:
    * `Value.leads_of_fieldPlace?`
    * `Value.leads_of_ownEntryPlace?`
-/

------------------------------------------------------------
-- Places of Slots
------------------------------------------------------------

namespace TreePath

/-
  A place of a value leads to a slot if it shows what stands
  there and stores what is put there.  Only values of the
  type of the one that it shows are ever put.
-/
structure Place.Leads
    (place : Place)
    (v : Value)
    (slot : Slot) : Prop where
  node : v.slot? slot = some place.node
  put :
    ∀ x, x.type = place.node.type →
      place.put x = v.store slot x

/- There is room for what is put at a place. -/
theorem Place.Leads.takes
    {place : Place}
    {v x : Value}
    {slot : Slot}
    (hLeads : place.Leads v slot)
    (hType : x.type = place.node.type) :
    v.Takes slot x :=
  Value.takes_of_slot? hLeads.node hType

namespace Value

/- The place of an item, in full. -/
theorem itemPlace?_eq_some_iff
    (items : List Value)
    (rebuild : List Value → Value)
    (i : Nat)
    (place : Place) :
    itemPlace? items rebuild i = some place ↔
      ∃ v, items[i]? = some v ∧
        place = ⟨v, fun x => rebuild (items.set i x)⟩ := by
  unfold itemPlace?
  cases items[i]? with
  | none => simp
  | some v => simp [eq_comm]

/- The place of a named entry, in full. -/
theorem namedPlace?_eq_some_iff
    (entries : List (String × Value))
    (rebuild : List (String × Value) → Value)
    (name : String)
    (place : Place) :
    namedPlace? entries rebuild name = some place ↔
      ∃ v, Entries.find? name entries = some v ∧
        place =
          ⟨v, fun x =>
            rebuild (Entries.insert name x entries)⟩ := by
  unfold namedPlace?
  cases hFound : Entries.find? name entries with
  | none => simp
  | some v => simp [Entries.insert, hFound, eq_comm]

------------------------------------------------------------
-- Places of Entries and Fields
------------------------------------------------------------

/- The place of an entry of a container is its slot. -/
theorem leads_of_ownEntryPlace?
    {v : Value}
    {key : Key}
    {place : Place}
    (hPlace : v.ownEntryPlace? key = some place) :
    place.Leads v (.entry key) := by
  cases v, key using entryCases with
  | sequence kind elem items i =>
      have hItem := (itemPlace?_eq_some_iff ..).mp hPlace
      rcases hItem with ⟨child, hFound, rfl⟩
      exact ⟨hFound, fun _ _ => rfl⟩
  | dictionary kind elem entries name =>
      have hEntry := (namedPlace?_eq_some_iff ..).mp hPlace
      rcases hEntry with ⟨child, hFound, rfl⟩
      exact ⟨hFound, fun _ _ => rfl⟩
  | document members name =>
      simp only [ownEntryPlace?, jsonMemberPlace?] at hPlace
      split at hPlace
      · cases hPlace
      · rename_i j hFound
        rcases Option.some.inj hPlace with rfl
        refine ⟨?_, ?_⟩
        · simp [ ownEntry?, hFound]
        · intro x hType
          rcases exists_json_of_type hType with ⟨new, rfl⟩
          simp [storeEntry, asJson, Entries.insert, hFound]
  | array items i =>
      simp only [ownEntryPlace?, jsonItemPlace?] at hPlace
      split at hPlace
      · cases hPlace
      · rename_i j hFound
        rcases Option.some.inj hPlace with rfl
        refine ⟨?_, ?_⟩
        · simp [ ownEntry?, hFound]
        · intro x hType
          rcases exists_json_of_type hType with ⟨new, rfl⟩
          simp [storeEntry, asJson]
  | object attributes entries name =>
      have hEntry := (namedPlace?_eq_some_iff ..).mp hPlace
      rcases hEntry with ⟨child, hFound, rfl⟩
      exact ⟨hFound, fun _ _ => rfl⟩
  | other v key hLacks =>
      rw [hLacks.noPlace] at hPlace
      cases hPlace

/- The place of a field is its slot. -/
theorem leads_of_fieldPlace?
    {v : Value}
    {name : String}
    {place : Place}
    (hPlace : v.fieldPlace? name = some place) :
    place.Leads v (v.shape.fieldSlot name) := by
  cases v with
  | record d fields =>
      simp only [fieldPlace?] at hPlace
      simp only [shape, Shape.fieldSlot]
      cases hField : d.visible? name with
      | none => simp [hField] at hPlace
      | some i =>
          simp only [hField] at hPlace
          rw [itemPlace?_eq_some_iff] at hPlace
          rcases hPlace with ⟨child, hItem, rfl⟩
          exact ⟨hItem, fun _ _ => rfl⟩
  | object attributes entries =>
      simp only [fieldPlace?] at hPlace
      simp only [shape, Shape.fieldSlot]
      cases hIndex : attributes.place? name with
      | none => simp [hIndex] at hPlace
      | some i =>
          simp only [hIndex] at hPlace
          rw [itemPlace?_eq_some_iff] at hPlace
          rcases hPlace with ⟨child, hItem, rfl⟩
          refine ⟨?_, ?_⟩
          · simp [slot?, Attributes.find?, hIndex, hItem]
          · intro x _
            simp only [store]
            rw [Attributes.insert_of_place?_eq_some hIndex]
            rfl
  | _ => simp [fieldPlace?] at hPlace

end Value

end TreePath
