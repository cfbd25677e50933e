import TreePath.Proofs.Tree.Rewriting
import TreePath.Tree.Forwarding

/-
  The laws of records that pass their keys on to fields.  They
  are sound, read back what they write and write in place; if
  the fields are hidden, all laws of one level hold.

  Key definitions include:
    * `RecordKeys.sealed`

  Main statements:
    * `KeyCode.keeps_forwarding`
    * `KeyCode.readsBack_forwarding`
    * `KeyCode.overwrites_forwarding`
    * `KeyCode.lawful_forwarding`
-/

namespace TreePath

------------------------------------------------------------
-- Forwarding
------------------------------------------------------------

namespace KeyCode

open Value

variable {d : Declaration Shape} {rule : Delegation}
variable {fields after : List Value} {key other : Key}
variable {x : Value} {i : Nat} {field : Value}

/- The field of a name is one of the fields. -/
theorem fieldAt?_eq_some_iff
    {name : String} :
    (∃ found,
      d.fieldAt? name fields = some found ∧
        found.index = i ∧ found.value = field) ↔
      d.place? name = some i ∧ fields[i]? = some field := by
  unfold Declaration.fieldAt?
  cases d.place? name with
  | none => simp
  | some j =>
      simp only [Option.some.injEq]
      split
      · rename_i hNone
        simp only [reduceCtorEq, false_and, exists_false,
          false_iff, not_and]
        rintro rfl
        simp [hNone]
      · rename_i v hFound
        constructor
        · rintro ⟨found, hSame, rfl, rfl⟩
          rcases Option.some.inj hSame with rfl
          exact ⟨rfl, hFound⟩
        · rintro ⟨rfl, hField⟩
          rw [hFound] at hField
          exact ⟨_, rfl, rfl, Option.some.inj hField⟩

/- An entry is one of the field that answers its key. -/
theorem forwardedEntry?_of_place
    (hIndex : d.place? (rule.field key) = some i)
    (fields : List Value) :
    forwardedEntry? d rule fields key =
      fields[i]?.bind (fun field => field.ownEntry? key) := by
  unfold forwardedEntry? Declaration.fieldAt?
  rw [hIndex]
  simp only
  split
  · rename_i hNone
    split at hNone
    · rename_i hField
      rw [hField]
      rfl
    · cases hNone
  · rename_i found hFound
    split at hFound
    · cases hFound
    · rename_i field hField
      rcases Option.some.inj hFound with rfl
      simp only [hField, Option.bind_some]

/- The entries of a field that is there. -/
theorem forwardedEntry?_of_field
    (hIndex : d.place? (rule.field key) = some i)
    (hField : fields[i]? = some field) :
    forwardedEntry? d rule fields key =
      field.ownEntry? key := by
  rw [forwardedEntry?_of_place hIndex, hField]
  rfl

/- What an entry is an entry of. -/
theorem exists_field_of_forwardedEntry?
    {v : Value}
    (hEntry : forwardedEntry? d rule fields key = some v) :
    ∃ i field,
      d.place? (rule.field key) = some i ∧
        fields[i]? = some field ∧
          field.ownEntry? key = some v := by
  unfold forwardedEntry? at hEntry
  split at hEntry
  · cases hEntry
  · rename_i found hFound
    rcases fieldAt?_eq_some_iff.mp ⟨found, hFound, rfl, rfl⟩
      with ⟨hPlace, hField⟩
    exact ⟨_, _, hPlace, hField, hEntry⟩

/- The place of an entry lies in the field that has it. -/
theorem exists_field_of_forwardedPlace?
    {place : KeyPlace fields}
    (hPlace :
      forwardedPlace? d rule fields key = some place) :
    ∃ i field inner,
      d.place? (rule.field key) = some i ∧
        fields[i]? = some field ∧
          field.ownEntryPlace? key = some inner ∧
            place.node = inner.node ∧
              ∀ x, place.put x = fields.set i (inner.put x) := by
  unfold forwardedPlace? at hPlace
  split at hPlace
  · cases hPlace
  · rename_i found hFound
    rcases fieldAt?_eq_some_iff.mp ⟨found, hFound, rfl, rfl⟩
      with ⟨hIndex, hField⟩
    rcases Option.pmap_eq_some_iff.mp hPlace with
      ⟨inner, _, hInner, rfl⟩
    exact
      ⟨_, _, inner, hIndex, hField, hInner, rfl, fun _ => rfl⟩

/- A write that takes place in the field for the key. -/
theorem forwardedSet_of_done
    {last : Value}
    (hIndex : d.place? (rule.field key) = some i)
    (hField : fields[i]? = some field)
    (hDone : field.setOwnEntry key x = .done last) :
    forwardedSet d rule fields key x =
      .ok (fields.set i last) := by
  rcases fieldAt?_eq_some_iff.mpr ⟨hIndex, hField⟩ with
    ⟨found, hFound, rfl, rfl⟩
  unfold forwardedSet
  simp only [hFound, hDone]
  rfl

/- A write that takes place is one to the field that answers
   the key. -/
theorem forwardedSet_eq_ok_iff :
    forwardedSet d rule fields key x = .ok after ↔
      ∃ i field,
        d.place? (rule.field key) = some i ∧
          fields[i]? = some field ∧
            (field.setOwnEntry key x).result = .ok () ∧
              after = fields.set i (field.storeEntry key x) := by
  constructor
  · intro hSet
    unfold forwardedSet at hSet
    split at hSet
    · cases hSet
    · rename_i found hFound
      rcases fieldAt?_eq_some_iff.mp ⟨found, hFound, rfl, rfl⟩
        with ⟨hIndex, hField⟩
      simp only at hSet
      split at hSet
      · rename_i hDone
        rcases Except.ok.inj hSet with rfl
        refine ⟨_, _, hIndex, hField, hDone, ?_⟩
        rw [(setOwnEntry_eq_done hDone).2.2]
        rfl
      · cases hSet
  · rintro ⟨i, field, hIndex, hField, hDone, rfl⟩
    exact
      forwardedSet_of_done hIndex hField
        (setOwnEntry_eq_done hDone).2.2

/- What a slot inherits, a field of a record inherits. -/
theorem field_of_hereditary
    {p : Value → Prop}
    (hSlots : Hereditary p)
    (hHolds : p (record d fields))
    (hField : fields[i]? = some field) :
    p field := by
  have hSlot : (record d fields).slot? (.field i) = some field :=
    hField
  exact hSlots.slot hHolds hSlot

/- It goes on to hold when the field is replaced. -/
theorem set_of_hereditary
    {p : Value → Prop}
    (hSlots : Hereditary p)
    (hHolds : p (record d fields))
    (hField : fields[i]? = some field)
    (hNew : p x)
    (hType : x.type = field.type) :
    p (record d (fields.set i x)) := by
  have hSlot : (record d fields).slot? (.field i) = some field :=
    hField
  exact hSlots.store hHolds hSlot hNew hType

/-
  Forwarding keeps what slots inherit and what containers keep
  when a value is written to them.
-/
theorem keeps_forwarding
    {p : Value → Prop}
    (hSlots : Hereditary p)
    (hStore :
      ∀ {v x key},
        p v → p x →
          (v.WellTyped → x.Suits v.shape (.entry key)) →
            p (v.storeEntry key x)) :
    (forwarding d rule).Keeps d p := by
  constructor
  case find =>
    intro fields key v hHolds hEntry
    rcases exists_field_of_forwardedEntry? hEntry with
      ⟨i, field, _, hField, hOwn⟩
    have hOfField := field_of_hereditary hSlots hHolds hField
    rw [← slot?_entry] at hOwn
    exact hSlots.slot hOfField hOwn
  case put =>
    intro fields key place x hHolds hPlace hNew hType
    rcases exists_field_of_forwardedPlace? hPlace with
      ⟨i, field, inner, _, hField, hInner, hNode, hPut⟩
    have hOfField := field_of_hereditary hSlots hHolds hField
    have hLeads := leads_of_ownEntryPlace? hInner
    rw [hNode] at hType
    rw [hPut, hLeads.put x hType]
    apply set_of_hereditary hSlots hHolds hField
    · exact hSlots.store hOfField hLeads.node hNew hType
    · exact type_store field _ x
  case set =>
    intro fields key x after hHolds hNew hSet
    rcases forwardedSet_eq_ok_iff.mp hSet with
      ⟨i, field, _, hField, hDone, rfl⟩
    have hOfField := field_of_hereditary hSlots hHolds hField
    rcases setOwnEntry_eq_done hDone with ⟨_, hSuits, _⟩
    apply set_of_hereditary hSlots hHolds hField
    · exact hStore hOfField hNew hSuits
    · exact type_of_shape (shape_storeEntry field key x)

/- The field that was written holds what was written. -/
theorem forwardedEntry?_set_self
    (hIndex : d.place? (rule.field key) = some i)
    (hField : fields[i]? = some field)
    (y : Value) :
    forwardedEntry? d rule (fields.set i y) key =
      y.ownEntry? key := by
  have hLt := (List.getElem?_eq_some_iff.mp hField).1
  exact
    forwardedEntry?_of_field hIndex (List.getElem?_set_self hLt)

/- Forwarding reads back what it has written. -/
theorem readsBack_forwarding
    (d : Declaration Shape)
    (rule : Delegation) :
    (forwarding d rule).ReadsBack := by
  constructor
  case find_put =>
    intro fields key place x hPlace hType
    rcases exists_field_of_forwardedPlace? hPlace with
      ⟨i, field, inner, hIndex, hField, hInner, hNode, hPut⟩
    have hLeads := leads_of_ownEntryPlace? hInner
    rw [hNode] at hType
    have hTakes := hLeads.takes hType
    rw [takes_entry] at hTakes
    rw [hPut, hLeads.put x hType, store_entry]
    rw [show (forwarding d rule).find? _ key = _ from
      forwardedEntry?_set_self hIndex hField _]
    exact ownEntry?_storeEntry_self hTakes
  case find_set =>
    intro fields key x after hSet
    rcases forwardedSet_eq_ok_iff.mp hSet with
      ⟨i, field, hIndex, hField, hDone, rfl⟩
    rcases setOwnEntry_eq_done hDone with ⟨hTakes, _, _⟩
    rw [show (forwarding d rule).find? _ key = _ from
      forwardedEntry?_set_self hIndex hField _]
    exact ownEntry?_storeEntry_self hTakes

/- Forwarding writes over entries in place. -/
theorem overwrites_forwarding
    (d : Declaration Shape)
    (rule : Delegation) :
    (forwarding d rule).Overwrites d := by
  constructor
  intro fields key place x hTyped hPlace hType
  rcases exists_field_of_forwardedPlace? hPlace with
    ⟨i, field, inner, hIndex, hField, hInner, hNode, hPut⟩
  have hFieldTyped :=
    field_of_hereditary hereditary_wellTyped hTyped hField
  rw [hNode] at hType
  have hOverwritten :=
    setOwnEntry_eq_put hFieldTyped hInner hType
  have hDone : (field.setOwnEntry key x).result = .ok () := by
    rw [hOverwritten]
    rfl
  have hStored := (setOwnEntry_eq_done hDone).2.2
  apply forwardedSet_eq_ok_iff.mpr
  refine ⟨i, field, hIndex, hField, hDone, ?_⟩
  rw [hPut]
  rw [hOverwritten] at hStored
  have hSame : inner.put x = field.storeEntry key x :=
    congrArg Update.node hStored
  rw [hSame]

/- A write where one was made before is made in its stead. -/
theorem rewrites_forwarding
    (d : Declaration Shape)
    (rule : Delegation) :
    (forwarding d rule).Rewrites d where
  toReadsBack := readsBack_forwarding d rule
  toOverwrites := overwrites_forwarding d rule
  set_set := by
    intro fields key x y after last hTyped hNew hFirst hSecond
    rcases forwardedSet_eq_ok_iff.mp hFirst with
      ⟨i, field, hIndex, hField, hDone, rfl⟩
    rcases forwardedSet_eq_ok_iff.mp hSecond with
      ⟨j, again, hAgain, hFound, hDoneNext, rfl⟩
    rw [hIndex] at hAgain
    rcases Option.some.inj hAgain with rfl
    rw [hField] at hFound
    rcases Option.some.inj hFound with rfl
    have hLt := (List.getElem?_eq_some_iff.mp hField).1
    have hFieldTyped :=
      field_of_hereditary hereditary_wellTyped hTyped hField
    have hRewritten :=
      setOwnEntry_storeEntry hFieldTyped hNew hDone hDoneNext
    apply forwardedSet_eq_ok_iff.mpr
    refine ⟨i, _, hIndex, List.getElem?_set_self hLt, ?_, ?_⟩
    · rw [hRewritten]
      rfl
    · rw [storeEntry_storeEntry, List.set_set]

------------------------------------------------------------
-- Entries Apart
------------------------------------------------------------

/- A field of another place is no field for the key. -/
theorem forwardedEntry?_set_of_ne
    (hApart : d.place? (rule.field key) ≠ some i)
    (fields : List Value)
    (x : Value) :
    forwardedEntry? d rule (fields.set i x) key =
      forwardedEntry? d rule fields key := by
  cases hIndex : d.place? (rule.field key) with
  | none =>
      unfold forwardedEntry? Declaration.fieldAt?
      rw [hIndex]
  | some j =>
      have hNe : i ≠ j := by
        rintro rfl
        exact hApart hIndex
      rw [forwardedEntry?_of_place hIndex,
        forwardedEntry?_of_place hIndex,
        List.getElem?_set_ne hNe]

/- Keys are told apart by the fields that answer them. -/
theorem keepsKey_forwarding
    (hNe : other ≠ key) :
    (forwarding d rule).KeepsKey d key other := by
  intro fields x after _ hSet
  rcases forwardedSet_eq_ok_iff.mp hSet with
    ⟨i, field, hIndex, hField, hDone, rfl⟩
  change
    forwardedEntry? d rule _ other =
      forwardedEntry? d rule _ other
  by_cases hSame : d.place? (rule.field other) = some i
  · rw [forwardedEntry?_set_self hSame hField,
      forwardedEntry?_of_field hSame hField]
    exact ownEntry?_storeEntry_of_ne hNe field x
  · exact forwardedEntry?_set_of_ne hSame fields _

/- Entries at two keys of one field may be swapped. -/
theorem swap_of_field
    (hTyped : field.WellTyped)
    (hNew : x.WellTyped)
    (hAlso : y.WellTyped)
    (hNe : other ≠ key)
    (hEntry : ( field.ownEntry? key).isSome)
    (hOther : ( field.ownEntry? other).isSome)
    (hDone : (field.setOwnEntry key x).result = .ok ())
    (hDoneNext : (field.setOwnEntry other y).result = .ok ()) :
    ∃ last,
      (field.storeEntry key x).setOwnEntry other y =
          .done last ∧
        (field.storeEntry other y).setOwnEntry key x =
          .done last := by
  rcases Option.isSome_iff_exists.mp hEntry with
    ⟨child, hChild⟩
  rcases Option.isSome_iff_exists.mp hOther with
    ⟨older, hOlder⟩
  refine
    ⟨_, setOwnEntry_storeEntry hTyped hNew hDone hDoneNext, ?_⟩
  rw [storeEntry_comm hNe hChild hOlder]
  exact setOwnEntry_storeEntry hTyped hAlso hDoneNext hDone

/- Entries at two keys may be swapped. -/
theorem swapsKeys_forwarding
    (hNe : other ≠ key) :
    (forwarding d rule).SwapsKeys d key other where
  keeps := keepsKey_forwarding hNe
  keeps_symm := keepsKey_forwarding hNe.symm
  set_comm := by
    intro fields x y after beside hTyped hNew hAlso hEntry
      hOther hFirst hSecond
    rcases forwardedSet_eq_ok_iff.mp hFirst with
      ⟨i, field, hIndex, hField, hDone, rfl⟩
    rcases forwardedSet_eq_ok_iff.mp hSecond with
      ⟨j, second, hAgain, hFound, hDoneNext, rfl⟩
    by_cases hSame : i = j
    · -- Both keys are answered by one field.
      subst hSame
      rw [hField] at hFound
      rcases Option.some.inj hFound with rfl
      have hLt := (List.getElem?_eq_some_iff.mp hField).1
      have hFieldTyped :=
        field_of_hereditary hereditary_wellTyped hTyped hField
      have hEntryOf :
          ( field.ownEntry? key).isSome := by
        rw [← forwardedEntry?_of_field hIndex hField]
        exact hEntry
      have hOtherOf :
          ( field.ownEntry? other).isSome := by
        rw [← forwardedEntry?_of_field hAgain hField]
        exact hOther
      rcases swap_of_field hFieldTyped hNew hAlso hNe hEntryOf
          hOtherOf hDone hDoneNext with
        ⟨last, hAfter, hBefore⟩
      refine ⟨fields.set i last, ?_, ?_⟩
      · have hSet :=
          forwardedSet_of_done hAgain
            (List.getElem?_set_self hLt) hAfter
        rw [List.set_set] at hSet
        exact hSet
      · have hSet :=
          forwardedSet_of_done hIndex
            (List.getElem?_set_self hLt) hBefore
        rw [List.set_set] at hSet
        exact hSet
    · refine
        ⟨(fields.set i (field.storeEntry key x)).set j
            (second.storeEntry other y),
          ?_, ?_⟩
      · apply forwardedSet_eq_ok_iff.mpr
        refine ⟨j, second, hAgain, ?_, hDoneNext, rfl⟩
        rw [List.getElem?_set_ne hSame]
        exact hFound
      · apply forwardedSet_eq_ok_iff.mpr
        refine ⟨i, field, hIndex, ?_, hDone, ?_⟩
        · rw [List.getElem?_set_ne (Ne.symm hSame)]
          exact hField
        · exact List.set_comm _ _ hSame

/- An entry may be swapped with a field that does not answer
   its key. -/
theorem swapsField_forwarding
    (hApart : d.place? (rule.field key) ≠ some i) :
    (forwarding d rule).SwapsField d key i where
  field_set := by
    intro fields x after _ hSet
    rcases forwardedSet_eq_ok_iff.mp hSet with
      ⟨j, field, hIndex, _, _, rfl⟩
    have hNe : j ≠ i := by
      rintro rfl
      exact hApart hIndex
    exact List.getElem?_set_ne hNe
  find_field := by
    intro fields old x _ _ _
    exact forwardedEntry?_set_of_ne hApart fields x
  set_field := by
    intro fields old x y after _ hOld hType hSet
    rcases forwardedSet_eq_ok_iff.mp hSet with
      ⟨j, field, hIndex, hField, hDone, rfl⟩
    have hNe : i ≠ j := by
      rintro rfl
      exact hApart hIndex
    apply forwardedSet_eq_ok_iff.mpr
    refine ⟨j, field, hIndex, ?_, hDone, ?_⟩
    · rw [List.getElem?_set_ne hNe]
      exact hField
    · exact List.set_comm _ _ hNe.symm

/-
  Code that passes keys on to fields that no name leads to is
  lawful: such a field holds nothing but what keys lead to.
-/
theorem lawful_forwarding
    (hHidden :
      ∀ key name i,
        d.place? (rule.field key) = some i →
          d.visible? name ≠ some i) :
    (forwarding d rule).Lawful d where
  toRewrites := rewrites_forwarding d rule
  keys := swapsKeys_forwarding
  fields := by
    intro name i key hVisible
    apply swapsField_forwarding
    intro hPlace
    exact hHidden key name i hPlace hVisible

end KeyCode

------------------------------------------------------------
-- All Records
------------------------------------------------------------

/- Whether no name leads to the field of a name. -/
def Declaration.hides
    (d : Declaration Shape)
    (name : String) : Bool :=
  match d.place? name with
  | none => true
  | some i =>
      (d.fields[i]?.map FieldDeclaration.hidden).getD true

/- A hidden field is not visible under any name. -/
theorem Declaration.visible?_ne_of_hides
    {d : Declaration Shape}
    {name other : String}
    {i : Nat}
    (hHides : d.hides name = true)
    (hPlace : d.place? name = some i) :
    d.visible? other ≠ some i := by
  intro hVisible
  unfold visible? at hVisible
  rcases List.findIdx?_eq_some_iff_getElem.mp hVisible with
    ⟨hLt, hField, _⟩
  simp [hides, hPlace, List.getElem?_eq_getElem hLt] at hHides
  simp [hHides] at hField

/-
  Only records that pass all their keys on to hidden fields
  answer keys.
-/
@[reducible] def RecordKeys.sealed : RecordKeys where
  code? d :=
    match d.delegation with
    | none => none
    | some rule =>
        if d.hides rule.positions && d.hides rule.names then
          some (.forwarding d rule)
        else
          none

/- The code of a sealed record. -/
theorem RecordKeys.exists_rule_of_sealed
    {d : Declaration Shape}
    {code : KeyCode}
    (hCode : sealed.code? d = some code) :
    ∃ rule,
      d.hides rule.positions = true ∧
        d.hides rule.names = true ∧
          code = .forwarding d rule := by
  unfold sealed at hCode
  simp only at hCode
  split at hCode
  · cases hCode
  · rename_i rule _
    split at hCode
    · rename_i hHides
      rw [Bool.and_eq_true] at hHides
      rcases Option.some.inj hCode with rfl
      exact ⟨rule, hHides.1, hHides.2, rfl⟩
    · cases hCode

/- Such code is lawful. -/
theorem RecordKeys.lawful_sealed : @LawfulKeys sealed := by
  refine @LawfulKeys.mk sealed ?_
  intro d code hCode
  rcases exists_rule_of_sealed hCode with
    ⟨rule, hPositions, hNames, rfl⟩
  apply KeyCode.lawful_forwarding
  intro key name i hPlace
  cases key with
  | index n =>
      exact Declaration.visible?_ne_of_hides hPositions hPlace
  | name text =>
      exact Declaration.visible?_ne_of_hides hNames hPlace

/- Whatever is forwarded stays well typed and consistent. -/
theorem RecordKeys.sound_of_forwarding
    [RecordKeys]
    (hForwarding :
      ∀ d code, code? d = some code →
        ∃ rule, code = .forwarding d rule) :
    SoundKeys where
  wellTyped := by
    intro d code hCode
    rcases hForwarding d code hCode with ⟨rule, rfl⟩
    refine KeyCode.keeps_forwarding Value.hereditary_wellTyped ?_
    intro v x key hTyped hNew hSuits
    exact Value.wellTyped_storeEntry hTyped hNew (hSuits hTyped)
  consistent := by
    intro d code hCode
    rcases hForwarding d code hCode with ⟨rule, rfl⟩
    refine
      KeyCode.keeps_forwarding Value.hereditary_consistent ?_
    intro v x key hConsistent hNew _
    exact Value.consistent_storeEntry hConsistent hNew key

/- In particular where the fields are hidden. -/
theorem RecordKeys.sound_sealed : @SoundKeys sealed := by
  apply @sound_of_forwarding sealed
  intro d code hCode
  rcases exists_rule_of_sealed hCode with ⟨rule, _, _, hSame⟩
  exact ⟨rule, hSame⟩

/- Forwarding is sound, and later writes win. -/
instance : SoundKeys := by
  apply RecordKeys.sound_of_forwarding
  intro d code hCode
  rcases Option.map_eq_some_iff.mp hCode with ⟨rule, _, rfl⟩
  exact ⟨rule, rfl⟩

instance : RewritingKeys where
  rewrites := by
    intro d code hCode
    rcases Option.map_eq_some_iff.mp hCode with ⟨rule, _, rfl⟩
    exact KeyCode.rewrites_forwarding d rule

end TreePath
