import TreePath.Proofs.Tree.Edits

/-
  Places agree with lookups and with writes: a place shows
  what a lookup finds, and a write to what is there is a put
  at its place.

  Main statements:
    * `Value.map_node_fieldPlace?`
    * `Value.map_node_entryPlace?`
    * `Value.setField_eq_put`
    * `Value.setEntry_eq_put`
-/

------------------------------------------------------------
-- Places and Lookups
------------------------------------------------------------

namespace TreePath

namespace Value

/- What has a place for an entry is what has the entry. -/
theorem map_node_entryPlace?
    [RecordKeys]
    (v : Value)
    (key : Key) :
    (v.entryPlace? key).map Place.node = v.entry? key := by
  cases v using keyCases with
  | record d fields code hCode =>
      simp only [entryPlace?, hCode, entry?_record hCode]
      rw [← code.map_node_place?]
      cases code.place? fields key with
      | none => rfl
      | some place => rfl
  | unkeyed d fields hCode =>
      rw [entryPlace?_unkeyed hCode, entry?_unkeyed hCode]
      rfl
  | own v hOwn =>
      rw [hOwn.entryPlace?, hOwn.entry?]
      exact map_node_ownEntryPlace? v key

/- What has a place for a field is what has the field. -/
theorem map_node_fieldPlace?
    (v : Value)
    (name : String) :
    (v.fieldPlace? name).map Place.node = v.field? name := by
  cases v with
  | object attributes entries =>
      simp only [fieldPlace?, field?, Attributes.find?]
      cases attributes.place? name with
      | none => rfl
      | some i => exact map_node_itemPlace? attributes.items _ i
  | record d fields =>
      simp only [fieldPlace?, field?]
      cases d.visible? name with
      | none => rfl
      | some i => exact map_node_itemPlace? fields _ i
  | _ => rfl

------------------------------------------------------------
-- Places and Writes
------------------------------------------------------------

/-
  To write a value of the type of the entry that is there is
  to put it at the entry's place.  A dictionary is asked for
  its own type, which is that of its entries.
-/
theorem setOwnEntry_eq_put
    {v x : Value}
    {key : Key}
    {place : Place}
    (hTyped : v.WellTyped)
    (hPlace : v.ownEntryPlace? key = some place)
    (hType : x.type = place.node.type) :
    v.setOwnEntry key x = .done (place.put x) := by
  cases v, key using entryCases with
  | sequence kind elem items i =>
      have hItem :
          itemPlace? items (.sequence kind elem) i.toNat =
            some place :=
        hPlace
      simp only [setOwnEntry, setItem, hItem]
      exact overwriteSlot_within hType
  | dictionary kind elem entries name =>
      have hEntry := (namedPlace?_eq_some_iff ..).mp hPlace
      rcases hEntry with ⟨old, hFound, rfl⟩
      cases hTyped with
      | dictionary hTypes hEntries =>
          have hOld : old.type = elem.nominal :=
            hTypes _ (Entries.mem_of_find? hFound)
          have hElem : x.type = elem.nominal := hType.trans hOld
          simp only [setOwnEntry, hElem, if_true]
  | document members name =>
      simp only [ownEntryPlace?, jsonMemberPlace?] at hPlace
      split at hPlace
      · cases hPlace
      · rename_i j hFound
        rcases Option.some.inj hPlace with rfl
        rcases exists_json_of_type hType with ⟨new, rfl⟩
        simp only [setOwnEntry, setJsonEntry, asJson]
        rw [Entries.insert_eq_replace hFound]
  | array items i =>
      simp only [ownEntryPlace?, jsonItemPlace?] at hPlace
      split at hPlace
      · cases hPlace
      · rename_i j hItem
        rcases Option.some.inj hPlace with rfl
        rcases exists_json_of_type hType with ⟨new, rfl⟩
        have hLt := (List.getElem?_eq_some_iff.mp hItem).1
        simp only [setOwnEntry, setJsonEntry, asJson, hLt,
          if_true]
  | object attributes entries name =>
      have hEntry := (namedPlace?_eq_some_iff ..).mp hPlace
      rcases hEntry with ⟨old, hFound, rfl⟩
      rfl
  | other v key hLacks =>
      rw [hLacks.noPlace] at hPlace
      cases hPlace

/- The same for the fields of objects and records. -/
theorem setField_eq_put
    {v x : Value}
    {name : String}
    {place : Place}
    (hPlace : v.fieldPlace? name = some place)
    (hType : x.type = place.node.type) :
    v.setField name x = .done (place.put x) := by
  cases v with
  | object attributes entries =>
      simp only [fieldPlace?] at hPlace
      split at hPlace
      · cases hPlace
      · rename_i i hIndex
        rw [itemPlace?_eq_some_iff] at hPlace
        rcases hPlace with ⟨old, hItem, rfl⟩
        simp only [setField]
        rw [Attributes.insert_of_place?_eq_some hIndex]
        rfl
  | record d fields =>
      simp only [setField, hPlace]
      exact overwriteSlot_within hType
  | _ => cases hPlace

/- The same for the entries of records. -/
theorem setEntry_eq_put
    [RecordKeys]
    [OverwritingKeys]
    {v x : Value}
    {key : Key}
    {place : Place}
    (hTyped : v.WellTyped)
    (hPlace : v.entryPlace? key = some place)
    (hType : x.type = place.node.type) :
    v.setEntry key x = .done (place.put x) := by
  cases v using keyCases with
  | record d fields code hCode =>
      rw [entryPlace?_record_eq_some_iff hCode] at hPlace
      rcases hPlace with ⟨inner, hInner, rfl⟩
      have hSet :=
        (OverwritingKeys.overwrites hCode).set_place hTyped
          hInner hType
      rw [setEntry_record hCode, hSet]
      rfl
  | unkeyed d fields hCode =>
      rw [entryPlace?_unkeyed hCode] at hPlace
      cases hPlace
  | own v hOwn =>
      rw [hOwn.entryPlace?] at hPlace
      rw [hOwn.setEntry]
      exact setOwnEntry_eq_put hTyped hPlace hType

end Value

end TreePath
