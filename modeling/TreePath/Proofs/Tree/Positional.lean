import TreePath.Proofs.Tree.Forwarding

/-
  Records whose fields are their entries, by position, as a
  point may answer the position zero with its first
  coordinate.  Nothing is passed on, and the laws that writes
  depend on hold.

  Key definitions include:
    * `KeyCode.positional`
    * `RecordKeys.positional`

  Main statements:
    * `KeyCode.rewrites_positional`
    * `KeyCode.swapsKeys_positional`
    * `KeyCode.swapsField_positional`
-/

------------------------------------------------------------
-- Code
------------------------------------------------------------

namespace TreePath

namespace KeyCode

/- The field at a position. -/
def positionalField?
    (fields : List Value) : Key → Option Value
| .index i => fields[i.toNat]?
| .name _ => none

/- Its place among the fields. -/
def positionalPlace?
    (fields : List Value) : Key → Option (KeyPlace fields)
| .name _ => none
| .index i =>
    match hFound : fields[i.toNat]? with
    | none => none
    | some v =>
        some (FieldAt.keyPlace ⟨_, v, hFound⟩ (.root v) rfl)

/- A write to a field replaces it by a value of its type. -/
def positionalSet
    (d : Declaration Shape)
    (fields : List Value)
    (key : Key)
    (x : Value) : Except AssignError (List Value) :=
  match key with
  | .name _ => .error (.invalidKey key d.typeName)
  | .index i =>
      match fields[i.toNat]? with
      | none =>
          .error
            (.indexOutOfBounds i fields.length d.typeName)
      | some old =>
          if x.type = old.type then
            .ok (fields.set i.toNat x)
          else
            .error (.mismatchedTypes old.typeName x.typeName)

section Entries

variable {d : Declaration Shape} {key other : Key}
variable {fields after : List Value} {x v : Value}

/- An entry is a field. -/
theorem positionalField?_eq_some_iff :
    positionalField? fields key = some v ↔
      ∃ i, key = .index i ∧ fields[i.toNat]? = some v := by
  cases key with
  | index i => simp [positionalField?]
  | name name => simp [positionalField?]

/- The place of an entry is that of a field. -/
theorem exists_field_of_positionalPlace?
    {place : KeyPlace fields}
    (hPlace : positionalPlace? fields key = some place) :
    ∃ i,
      key = .index i ∧
        fields[i.toNat]? = some place.node ∧
          ∀ x, place.put x = fields.set i.toNat x := by
  cases key with
  | name name => cases hPlace
  | index i =>
      unfold positionalPlace? at hPlace
      simp only at hPlace
      split at hPlace
      · cases hPlace
      · rename_i v hFound
        rcases Option.some.inj hPlace with rfl
        exact ⟨i, rfl, hFound, fun _ => rfl⟩

/- A write that takes place replaces a field. -/
theorem positionalSet_eq_ok_iff :
    positionalSet d fields key x = .ok after ↔
      ∃ i old,
        key = .index i ∧
          fields[i.toNat]? = some old ∧
            x.type = old.type ∧
              after = fields.set i.toNat x := by
  cases key with
  | name name => simp [positionalSet]
  | index i =>
      unfold positionalSet
      cases hField : fields[i.toNat]? with
      | none => simp [hField]
      | some old =>
          by_cases hType : x.type = old.type
          · simp [hField, hType, eq_comm]
          · simp [hField, hType]

end Entries

variable (d : Declaration Shape)

/- Code by which the fields are the entries. -/
def positional : KeyCode where
  find? := positionalField?
  place? := positionalPlace?
  count := List.length
  set := positionalSet d
  map_node_place? := by
    intro fields key
    cases hPlace : positionalPlace? fields key with
    | some place =>
        rcases exists_field_of_positionalPlace? hPlace with
          ⟨i, rfl, hField, _⟩
        exact hField.symm
    | none =>
        cases key with
        | name name => rfl
        | index i =>
            unfold positionalPlace? at hPlace
            simp only at hPlace
            split at hPlace
            · rename_i hNone
              exact hNone.symm
            · cases hPlace
  length_set := by
    intro fields key x after hSet
    rcases positionalSet_eq_ok_iff.mp hSet with
      ⟨i, _, _, _, _, rfl⟩
    exact List.length_set

------------------------------------------------------------
-- Laws
------------------------------------------------------------

/- What the code writes, it writes to a field. -/
theorem set_positional_eq_ok_iff
    {d : Declaration Shape}
    {fields after : List Value}
    {key : Key}
    {x : Value} :
    (positional d).set fields key x = .ok after ↔
      ∃ i old,
        key = .index i ∧
          fields[i.toNat]? = some old ∧
            x.type = old.type ∧
              after = fields.set i.toNat x :=
  positionalSet_eq_ok_iff

/- Code that replaces fields keeps what slots inherit. -/
theorem keeps_positional
    {p : Value → Prop}
    (hSlots : Value.Hereditary p) :
    (positional d).Keeps d p := by
  constructor
  case find =>
    intro fields key v hHolds hFound
    rcases positionalField?_eq_some_iff.mp hFound with
      ⟨i, _, hField⟩
    exact field_of_hereditary hSlots hHolds hField
  case put =>
    intro fields key place x hHolds hPlace hNew hType
    rcases exists_field_of_positionalPlace? hPlace with
      ⟨i, _, hField, hPut⟩
    rw [hPut]
    exact set_of_hereditary hSlots hHolds hField hNew hType
  case set =>
    intro fields key x after hHolds hNew hSet
    rcases set_positional_eq_ok_iff.mp hSet with
      ⟨i, old, _, hField, hType, rfl⟩
    exact set_of_hereditary hSlots hHolds hField hNew hType

/- What replaced a field is found at its position. -/
theorem readsBack_positional :
    (positional d).ReadsBack := by
  constructor
  case find_put =>
    intro fields key place x hPlace _
    rcases exists_field_of_positionalPlace? hPlace with
      ⟨i, rfl, hField, hPut⟩
    have hLt := (List.getElem?_eq_some_iff.mp hField).1
    rw [hPut]
    exact List.getElem?_set_self hLt
  case find_set =>
    intro fields key x after hSet
    rcases set_positional_eq_ok_iff.mp hSet with
      ⟨i, old, rfl, hField, _, rfl⟩
    have hLt := (List.getElem?_eq_some_iff.mp hField).1
    exact List.getElem?_set_self hLt

/- To write a field is to put the value in its place. -/
theorem overwrites_positional :
    (positional d).Overwrites d := by
  constructor
  intro fields key place x _ hPlace hType
  rcases exists_field_of_positionalPlace? hPlace with
    ⟨i, rfl, hField, hPut⟩
  apply set_positional_eq_ok_iff.mpr
  exact ⟨i, _, rfl, hField, hType, hPut x⟩

/- The later of two writes to a field wins. -/
theorem rewrites_positional :
    (positional d).Rewrites d where
  toReadsBack := readsBack_positional d
  toOverwrites := overwrites_positional d
  set_set := by
    intro fields key x y after last _ _ hFirst hSecond
    rcases set_positional_eq_ok_iff.mp hFirst with
      ⟨i, old, rfl, hField, hType, rfl⟩
    rcases set_positional_eq_ok_iff.mp hSecond with
      ⟨_, _, ⟨rfl⟩, hAgain, hTypeNext, rfl⟩
    rw [hField] at hAgain
    rcases Option.some.inj hAgain with rfl
    have hLt := (List.getElem?_eq_some_iff.mp hField).1
    apply set_positional_eq_ok_iff.mpr
    refine ⟨i, x, rfl, List.getElem?_set_self hLt, ?_, ?_⟩
    · exact hTypeNext.trans hType.symm
    · exact (List.set_set ..).symm

variable {d}

/- A write to one field leaves all others alone. -/
theorem keepsKey_positional
    {key other : Key}
    (hNe : other ≠ key) :
    (positional d).KeepsKey d key other := by
  intro fields x after _ hSet
  rcases set_positional_eq_ok_iff.mp hSet with
    ⟨i, _, rfl, _, _, rfl⟩
  cases other with
  | name name => rfl
  | index j =>
      exact
        List.getElem?_set_ne (Value.toNat_ne_of_ne hNe)

/- Writes to two fields by position may be swapped. -/
theorem swapsKeys_positional
    {key other : Key}
    (hNe : other ≠ key) :
    (positional d).SwapsKeys d key other where
  keeps := keepsKey_positional hNe
  keeps_symm := keepsKey_positional hNe.symm
  set_comm := by
    intro fields x y after beside _ _ _ _ _ hFirst hSecond
    rcases set_positional_eq_ok_iff.mp hFirst with
      ⟨i, old, rfl, hField, hType, rfl⟩
    rcases set_positional_eq_ok_iff.mp hSecond with
      ⟨j, older, rfl, hOther, hTypeNext, rfl⟩
    have hApart := Value.toNat_ne_of_ne hNe
    refine
      ⟨(fields.set i.toNat x).set j.toNat y, ?_, ?_⟩
    · apply set_positional_eq_ok_iff.mpr
      refine ⟨j, older, rfl, ?_, hTypeNext, rfl⟩
      rw [List.getElem?_set_ne hApart]
      exact hOther
    · apply set_positional_eq_ok_iff.mpr
      refine ⟨i, old, rfl, ?_, hType, ?_⟩
      · rw [List.getElem?_set_ne hApart.symm]
        exact hField
      · exact List.set_comm _ _ hApart

/- A write by position may be swapped with one to a field of
   another position. -/
theorem swapsField_positional
    {i : UInt64}
    {j : Nat}
    (hApart : i.toNat ≠ j) :
    (positional d).SwapsField d (.index i) j where
  field_set := by
    intro fields x after _ hSet
    rcases set_positional_eq_ok_iff.mp hSet with
      ⟨_, _, ⟨rfl⟩, _, _, rfl⟩
    exact List.getElem?_set_ne hApart
  find_field := by
    intro fields old x _ _ _
    exact List.getElem?_set_ne hApart.symm
  set_field := by
    intro fields old x y after _ _ _ hSet
    rcases set_positional_eq_ok_iff.mp hSet with
      ⟨_, entry, ⟨rfl⟩, hField, hType, rfl⟩
    apply set_positional_eq_ok_iff.mpr
    refine ⟨i, entry, rfl, ?_, hType, ?_⟩
    · rw [List.getElem?_set_ne hApart.symm]
      exact hField
    · exact List.set_comm _ _ hApart

end KeyCode

------------------------------------------------------------
-- All Records
------------------------------------------------------------

/- All records answer positions from their fields. -/
@[reducible] def RecordKeys.positional : RecordKeys where
  code? d := some (.positional d)

/- Fields stay well typed and consistent. -/
theorem RecordKeys.sound_positional :
    @SoundKeys positional := by
  refine @SoundKeys.mk positional ?_ ?_
  · rintro d code ⟨rfl⟩
    exact KeyCode.keeps_positional d Value.hereditary_wellTyped
  · rintro d code ⟨rfl⟩
    exact
      KeyCode.keeps_positional d Value.hereditary_consistent

/- Later writes win. -/
theorem RecordKeys.rewriting_positional :
    @RewritingKeys positional := by
  refine @RewritingKeys.mk positional ?_
  rintro d code ⟨rfl⟩
  exact KeyCode.rewrites_positional d

end TreePath
