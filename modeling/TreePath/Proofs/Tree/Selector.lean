import TreePath.Proofs.Tree.Agreement

/-
  Children are selected by the name of a field or by the key
  of an entry.  Most stand in a slot; those at the keys of a
  record are answered by code.  Either way the same laws hold
  of reading and writing them.

  Key definitions include:
    * `Selector`
    * `Value.child?`
    * `Value.childPlace?`
    * `Value.Writes`
    * `Shape.slotFor?`
    * `Value.Valid`

  Main statements:
    * `Value.selectorCases`
    * `Value.child?_put`
    * `Value.writes_put`
    * `Value.Writes.child?_self`
    * `Value.Writes.child?_of_ne`
-/

------------------------------------------------------------
-- Children
------------------------------------------------------------

namespace TreePath

/- A child is selected as a field or as an entry. -/
inductive Selector where
| field (name : String)
| entry (key : Key)
deriving DecidableEq, Repr

variable [RecordKeys]

namespace Value

/- The child that a selector stands for. -/
def child?
    (v : Value) : Selector → Option Value
| .field name => v.field? name
| .entry key => v.entry? key

/- Its place. -/
def childPlace?
    (v : Value) : Selector → Option Place
| .field name => v.fieldPlace? name
| .entry key => v.entryPlace? key

/- Write a child. -/
def setChild
    (v : Value)
    (selector : Selector)
    (x : Value) : Update AssignError :=
  match selector with
  | .field name => v.setField name x
  | .entry key => v.setEntry key x

/- A write of a child that takes place, and its outcome. -/
def Writes
    (v : Value)
    (selector : Selector)
    (x after : Value) : Prop :=
  v.setChild selector x = .done after

/- The trees that types and their interfaces allow. -/
structure Valid (v : Value) : Prop where
  wellTyped : v.WellTyped
  consistent : v.Consistent

end Value

/- The slot of a child, unless code answers for it. -/
def Shape.slotFor?
    (type : Shape) : Selector → Option Slot
| .field name => some (type.fieldSlot name)
| .entry key =>
    match type with
    | .record d =>
        match RecordKeys.code? d with
        | none => some (.entry key)
        | some _ => none
    | _ => some (.entry key)

namespace Shape

variable {type : Shape} {slot : Slot}

/- The slot of a field. -/
theorem eq_fieldSlot_of_slotFor?
    {name : String}
    (hSlot : type.slotFor? (.field name) = some slot) :
    slot = type.fieldSlot name :=
  (Option.some.inj hSlot).symm

/- The slot of an entry. -/
theorem eq_entry_of_slotFor?
    {key : Key}
    (hSlot : type.slotFor? (.entry key) = some slot) :
    slot = .entry key := by
  cases type with
  | record d =>
      simp only [slotFor?] at hSlot
      split at hSlot
      · exact (Option.some.inj hSlot).symm
      · cases hSlot
  | _ => exact (Option.some.inj hSlot).symm

/- No two children share a slot. -/
theorem slotFor?_injective
    {first second : Selector}
    (hFirst : type.slotFor? first = some slot)
    (hSecond : type.slotFor? second = some slot) :
    first = second := by
  cases first with
  | field name =>
      rcases eq_fieldSlot_of_slotFor? hFirst with rfl
      cases second with
      | field other =>
          have hSame := eq_fieldSlot_of_slotFor? hSecond
          rw [fieldSlot_injective hSame]
      | entry key =>
          have hSame := eq_entry_of_slotFor? hSecond
          exact absurd hSame (fieldSlot_ne_entry type name key)
  | entry key =>
      rcases eq_entry_of_slotFor? hFirst with rfl
      cases second with
      | field name =>
          have hSame := eq_fieldSlot_of_slotFor? hSecond
          exact
            absurd hSame.symm (fieldSlot_ne_entry type name key)
      | entry other =>
          rw [Slot.entry.inj (eq_entry_of_slotFor? hSecond)]

end Shape

namespace Value

variable {v x after : Value} {selector : Selector}
variable {slot : Slot} {place : Place}

/- A child stands in a slot, or the code of a record answers
   for it. -/
@[elab_as_elim] theorem selectorCases
    {motive : Value → Selector → Prop}
    (slot :
      ∀ v selector slot,
        v.shape.slotFor? selector = some slot →
          motive v selector)
    (key :
      ∀ d fields code key,
        RecordKeys.code? d = some code →
          motive (.record d fields) (.entry key))
    (v : Value)
    (selector : Selector) :
    motive v selector := by
  cases selector with
  | field name => exact slot v _ _ rfl
  | entry key' =>
      cases v with
      | record d fields =>
          cases hCode : RecordKeys.code? d with
          | none =>
              refine slot _ _ (.entry key') ?_
              simp only [shape, Shape.slotFor?, hCode]
          | some code => exact key d fields code key' hCode
      | _ => exact slot _ _ (.entry key') rfl

/- A key has a slot if no code answers it. -/
theorem keepsEntries_or_unkeyed
    {key : Key}
    (hSlot : v.shape.slotFor? (.entry key) = some slot) :
    v.KeepsEntries ∨
      ∃ d fields,
        RecordKeys.code? d = none ∧ v = .record d fields := by
  cases v using keyCases with
  | record d fields code hCode =>
      simp only [shape, Shape.slotFor?, hCode] at hSlot
      cases hSlot
  | unkeyed d fields hCode =>
      exact .inr ⟨d, fields, hCode, rfl⟩
  | own v hOwn => exact .inl hOwn

/- A child is what stands in its slot. -/
theorem child?_eq_slot?
    (hSlot : v.shape.slotFor? selector = some slot) :
    v.child? selector = v.slot? slot := by
  cases selector with
  | field name =>
      rcases Option.some.inj hSlot with rfl
      exact field?_eq_slot? v name
  | entry key =>
      rcases Shape.eq_entry_of_slotFor? hSlot with rfl
      rcases keepsEntries_or_unkeyed hSlot with
        hOwn | ⟨d, fields, hCode, rfl⟩
      · rw [slot?_entry]
        exact hOwn.entry? key
      · exact entry?_unkeyed hCode key

/- It is so after a store, too. -/
theorem child?_store
    {stored : Slot}
    (hSlot : v.shape.slotFor? selector = some slot) :
    (v.store stored x).child? selector =
      (v.store stored x).slot? slot := by
  apply child?_eq_slot?
  rw [shape_store]
  exact hSlot

/- Its place leads there. -/
theorem leads_of_childPlace?
    (hSlot : v.shape.slotFor? selector = some slot)
    (hPlace : v.childPlace? selector = some place) :
    place.Leads v slot := by
  cases selector with
  | field name =>
      rcases Option.some.inj hSlot with rfl
      exact leads_of_fieldPlace? hPlace
  | entry key =>
      simp only [childPlace?] at hPlace
      rcases Shape.eq_entry_of_slotFor? hSlot with rfl
      rcases keepsEntries_or_unkeyed hSlot with
        hOwn | ⟨d, fields, hCode, rfl⟩
      · rw [hOwn.entryPlace?] at hPlace
        exact leads_of_ownEntryPlace? hPlace
      · rw [entryPlace?_unkeyed hCode] at hPlace
        cases hPlace

/- A write of it stores it there. -/
theorem stores_setChild
    (hSlot : v.shape.slotFor? selector = some slot)
    (x : Value) :
    v.Stores slot x (v.setChild selector x) := by
  cases selector with
  | field name =>
      rcases Option.some.inj hSlot with rfl
      exact stores_setField v name x
  | entry key =>
      simp only [setChild]
      rcases Shape.eq_entry_of_slotFor? hSlot with rfl
      rcases keepsEntries_or_unkeyed hSlot with
        hOwn | ⟨d, fields, hCode, rfl⟩
      · rw [hOwn.setEntry]
        exact stores_setOwnEntry v key x
      · simp only [setEntry, hCode]
        exact .refused _

/- If it takes place, there is room for what it writes. -/
theorem Writes.stored
    (hWrites : v.Writes selector x after)
    (hSlot : v.shape.slotFor? selector = some slot) :
    v.Takes slot x ∧
      (v.WellTyped → x.Suits v.shape slot) ∧
        after = v.store slot x := by
  have hStores := stores_setChild hSlot x
  rw [hWrites] at hStores
  cases hStores with
  | stored hTakes hSuits => exact ⟨hTakes, hSuits, rfl⟩

/- At the key of a record, code writes. -/
theorem writes_entry_record_iff
    {d : Declaration Shape}
    {fields : List Value}
    {code : KeyCode}
    {key : Key}
    (hCode : RecordKeys.code? d = some code) :
    (record d fields).Writes (.entry key) x after ↔
      ∃ written,
        code.set fields key x = .ok written ∧
          after = .record d written := by
  simp only [Writes, setChild, setEntry_record hCode]
  cases code.set fields key x with
  | error e => simp [Update.refuse, Update.done]
  | ok written => simp [Update.done, eq_comm]

omit [RecordKeys] in
/- A field with room for a value is a visible one. -/
theorem exists_visible_of_takes
    {d : Declaration Shape}
    {fields : List Value}
    {name : String}
    (hTakes :
      (record d fields).Takes
        ((Shape.record d).fieldSlot name) x) :
    ∃ i,
      d.visible? name = some i ∧
        i < fields.length ∧
          (Shape.record d).fieldSlot name = .field i := by
  simp only [Shape.fieldSlot] at hTakes ⊢
  cases hVisible : d.visible? name with
  | none =>
      rw [hVisible] at hTakes
      cases hTakes
  | some i =>
      rw [hVisible] at hTakes
      exact ⟨i, rfl, hTakes, rfl⟩

/- In the field of a record, a value of its type is written. -/
theorem Writes.field_record
    {d : Declaration Shape}
    {fields : List Value}
    {name : String}
    (hTyped : (record d fields).WellTyped)
    (hWrites :
      (record d fields).Writes (.field name) x after) :
    ∃ i old,
      d.visible? name = some i ∧
        fields[i]? = some old ∧
          x.type = old.type ∧
            after = .record d (fields.set i x) := by
  rcases hWrites.stored rfl with ⟨hTakes, hSuits, rfl⟩
  rcases exists_visible_of_takes hTakes with
    ⟨i, hVisible, hLt, hSlot⟩
  have hOld := List.getElem?_eq_getElem hLt
  simp only [shape, hSlot] at hSuits ⊢
  refine ⟨i, fields[i], hVisible, hOld, ?_, rfl⟩
  apply hSuits hTyped
  cases hTyped with
  | record hTypes hFields =>
      exact type_of_getElem?_fields hTypes hOld

------------------------------------------------------------
-- Places and Writes
------------------------------------------------------------

/- What has a place for a child is what has the child. -/
theorem map_node_childPlace?
    (v : Value)
    (selector : Selector) :
    (v.childPlace? selector).map Place.node =
      v.child? selector := by
  cases selector with
  | field name => exact map_node_fieldPlace? v name
  | entry key => exact map_node_entryPlace? v key

/- A child is seen at its place. -/
theorem child?_of_childPlace?
    (hPlace : v.childPlace? selector = some place) :
    v.child? selector = some place.node := by
  rw [← map_node_childPlace?, hPlace]
  rfl

/- A child has a place. -/
theorem exists_childPlace?
    {child : Value}
    (hChild : v.child? selector = some child) :
    ∃ place,
      v.childPlace? selector = some place ∧
        place.node = child := by
  rw [← map_node_childPlace?] at hChild
  exact Option.map_eq_some_iff.mp hChild

/- The place of a child lies in the value that has it. -/
theorem liesIn_of_childPlace?
    (hPlace : v.childPlace? selector = some place) :
    place.LiesIn v := by
  cases selector with
  | field name => exact liesIn_of_fieldPlace? hPlace
  | entry key => exact liesIn_of_entryPlace? hPlace

/- A write of a child is an edit. -/
theorem edits_setChild
    (v : Value)
    (selector : Selector)
    (x : Value) :
    x.Edits v (v.setChild selector x) := by
  cases selector with
  | field name => exact (stores_setField v name x).edits
  | entry key => exact edits_setEntry v key x

/- What a write leaves is of the same type. -/
theorem Writes.shape_eq
    (hWrites : v.Writes selector x after) :
    after.shape = v.shape := by
  have hEdits := edits_setChild v selector x
  rw [hWrites] at hEdits
  exact hEdits.shape_node

section Sound

variable [SoundKeys]

/- The children of a valid tree are valid. -/
theorem Valid.child
    {child : Value}
    (hValid : v.Valid)
    (hChild : v.child? selector = some child) :
    child.Valid := by
  rcases exists_childPlace? hChild with ⟨place, hPlace, rfl⟩
  have hLies := liesIn_of_childPlace? hPlace
  exact
    ⟨hLies.wellTyped_node hValid.wellTyped,
      hLies.consistent_node hValid.consistent⟩

/- A write of a well-typed value leaves a well-typed one. -/
theorem Writes.wellTyped
    (hWrites : v.Writes selector x after)
    (hTyped : v.WellTyped)
    (hNew : x.WellTyped) :
    after.WellTyped := by
  have hEdits := edits_setChild v selector x
  rw [hWrites] at hEdits
  exact (hEdits.standsFor hTyped hNew).wellTyped

end Sound

/- A value may be written over a child of its type. -/
theorem writes_put
    [OverwritingKeys]
    (hTyped : v.WellTyped)
    (hPlace : v.childPlace? selector = some place)
    (hType : x.type = place.node.type) :
    v.Writes selector x (place.put x) := by
  cases selector with
  | field name => exact setField_eq_put hPlace hType
  | entry key => exact setEntry_eq_put hTyped hPlace hType

/- A write has one outcome. -/
theorem Writes.unique
    {other : Value}
    (hWrites : v.Writes selector x after)
    (hOther : v.Writes selector x other) :
    after = other := by
  have hSame := hWrites.symm.trans hOther
  exact congrArg Update.node hSame

------------------------------------------------------------
-- Reading after a Write
------------------------------------------------------------

omit [RecordKeys] in
/- Whether a record has a field is settled by its type. -/
theorem isSome_field?_record
    {d : Declaration Shape}
    {fields written : List Value}
    (hLength : written.length = fields.length)
    (name : String) :
    ((record d written).field? name).isSome =
      ((record d fields).field? name).isSome := by
  simp only [field?]
  cases d.visible? name with
  | none => rfl
  | some i =>
      rw [Bool.eq_iff_iff]
      simp only [isSome_getElem?, hLength]

omit [RecordKeys] in
/- A store in an old slot does not change which slots hold
   something. -/
theorem isSome_slot?_store
    {old : Value}
    (hConsistent : v.Consistent)
    (hOld : v.slot? slot = some old)
    (hTakes : v.Takes slot x)
    (other : Slot) :
    ((v.store slot x).slot? other).isSome =
      (v.slot? other).isSome := by
  by_cases hSame : other = slot
  · subst hSame
    rw [slot?_store_self hConsistent hTakes, hOld]
    rfl
  · rw [slot?_store_of_ne hConsistent hSame]

/- No field comes or goes when a child is replaced. -/
theorem isSome_field?_put
    (hConsistent : v.Consistent)
    (hPlace : v.childPlace? selector = some place)
    (hType : x.type = place.node.type)
    (name : String) :
    ((place.put x).field? name).isSome =
      (v.field? name).isSome := by
  cases v, selector using selectorCases with
  | slot v selector slot hSlot =>
      have hLeads := leads_of_childPlace? hSlot hPlace
      have hTakes := hLeads.takes hType
      rw [hLeads.put x hType, field?_eq_slot?, field?_eq_slot?,
        shape_store]
      exact
        isSome_slot?_store hConsistent hLeads.node hTakes _
  | key d fields code key hCode =>
      rcases (entryPlace?_record_eq_some_iff hCode key place).mp
          hPlace with
        ⟨inner, _, rfl⟩
      exact isSome_field?_record (inner.length_put x) name

/- What is put at the place of a child becomes the child. -/
theorem child?_put
    [ReadBackKeys]
    (hConsistent : v.Consistent)
    (hPlace : v.childPlace? selector = some place)
    (hType : x.type = place.node.type) :
    (place.put x).child? selector = some x := by
  cases v, selector using selectorCases with
  | slot v selector slot hSlot =>
      have hLeads := leads_of_childPlace? hSlot hPlace
      rw [hLeads.put x hType, child?_store hSlot]
      exact slot?_store_self hConsistent (hLeads.takes hType)
  | key d fields code key hCode =>
      rcases (entryPlace?_record_eq_some_iff hCode key place).mp
          hPlace with
        ⟨inner, hInner, rfl⟩
      have hReads := ReadBackKeys.readsBack hCode
      exact
        (entry?_record hCode key).trans
          (hReads.find_put hInner hType)

/-
  A write of the one child leaves the other alone: they stand
  in two slots, or the code of a record keeps them apart.
-/
inductive Spares : Value → Selector → Selector → Prop
| slots
    {v : Value}
    {first second : Selector}
    {slot beyond : Slot}
    (hSlot : v.shape.slotFor? first = some slot)
    (hBeyond : v.shape.slotFor? second = some beyond)
    (hNe : second ≠ first) :
    Spares v first second
| keys
    {d : Declaration Shape}
    {fields : List Value}
    {code : KeyCode}
    {key other : Key}
    (hCode : RecordKeys.code? d = some code)
    (hKeeps : code.KeepsKey d key other) :
    Spares (.record d fields) (.entry key) (.entry other)
| keyField
    {d : Declaration Shape}
    {fields : List Value}
    {code : KeyCode}
    {key : Key}
    {name : String}
    (hCode : RecordKeys.code? d = some code)
    (hKeeps :
      ∀ i, d.visible? name = some i →
        code.KeepsField d key i) :
    Spares (.record d fields) (.entry key) (.field name)
| fieldKey
    {d : Declaration Shape}
    {fields : List Value}
    {code : KeyCode}
    {key : Key}
    {name : String}
    (hCode : RecordKeys.code? d = some code)
    (hKeeps :
      ∀ i, d.visible? name = some i →
        code.KeepsField d key i) :
    Spares (.record d fields) (.field name) (.entry key)

/- Two children have slots, or code answers for one of them
   or for both. -/
@[elab_as_elim] theorem pairCases
    {motive : Value → Selector → Selector → Prop}
    (slots :
      ∀ v first second slot beyond,
        v.shape.slotFor? first = some slot →
          v.shape.slotFor? second = some beyond →
            motive v first second)
    (keys :
      ∀ d fields code key other,
        RecordKeys.code? d = some code →
          motive (.record d fields) (.entry key) (.entry other))
    (keyField :
      ∀ d fields code key name,
        RecordKeys.code? d = some code →
          motive (.record d fields) (.entry key) (.field name))
    (fieldKey :
      ∀ d fields code key name,
        RecordKeys.code? d = some code →
          motive (.record d fields) (.field name) (.entry key))
    (v : Value)
    (first second : Selector) :
    motive v first second := by
  cases v, first using selectorCases with
  | slot v first slot hSlot =>
      cases v, second using selectorCases with
      | slot v second beyond hBeyond =>
          exact slots v _ _ slot beyond hSlot hBeyond
      | key d fields code key hCode =>
          cases first with
          | field name => exact fieldKey d fields code key name hCode
          | entry other =>
              exact keys d fields code other key hCode
  | key d fields code key hCode =>
      cases second with
      | field name => exact keyField d fields code key name hCode
      | entry other => exact keys d fields code key other hCode

/- Where code tells children apart, each spares all others. -/
theorem spares_of_ne
    [SeparateKeys]
    {other : Selector}
    (hNe : other ≠ selector) :
    v.Spares selector other := by
  cases v, selector, other using pairCases with
  | slots v first second slot beyond hSlot hBeyond =>
      exact .slots hSlot hBeyond hNe
  | keys d fields code key other hCode =>
      have hKey : other ≠ key := by
        rintro rfl
        exact hNe rfl
      exact .keys hCode ((SeparateKeys.separates hCode).keys hKey)
  | keyField d fields code key name hCode =>
      refine .keyField hCode ?_
      intro i hVisible
      exact (SeparateKeys.separates hCode).fields key hVisible
  | fieldKey d fields code key name hCode =>
      refine .fieldKey hCode ?_
      intro i hVisible
      exact (SeparateKeys.separates hCode).fields key hVisible

namespace Writes

variable {other : Selector}

/- What was written is the child. -/
theorem child?_self
    [ReadBackKeys]
    (hWrites : v.Writes selector x after)
    (hConsistent : v.Consistent) :
    after.child? selector = some x := by
  cases v, selector using selectorCases with
  | slot v selector slot hSlot =>
      rcases hWrites.stored hSlot with ⟨hTakes, _, rfl⟩
      rw [child?_store hSlot]
      exact slot?_store_self hConsistent hTakes
  | key d fields code key hCode =>
      rcases (writes_entry_record_iff hCode).mp hWrites with
        ⟨written, hSet, rfl⟩
      have hReads := ReadBackKeys.readsBack hCode
      exact
        (entry?_record hCode key).trans (hReads.find_set hSet)

/- A write of a child leaves those alone that it spares. -/
theorem child?_of_spares
    (hWrites : v.Writes selector x after)
    (hValid : v.Valid)
    (hSpares : v.Spares selector other) :
    after.child? other = v.child? other := by
  have hTyped := hValid.wellTyped
  cases hSpares with
  | @slots v selector other slot beyond hSlot hBeyond hNe =>
      rcases hWrites.stored hSlot with ⟨_, _, rfl⟩
      have hApart : beyond ≠ slot := by
        rintro rfl
        exact hNe (Shape.slotFor?_injective hBeyond hSlot)
      rw [child?_store hBeyond, child?_eq_slot? hBeyond]
      exact slot?_store_of_ne hValid.consistent hApart x
  | keys hCode hKeeps =>
      rcases (writes_entry_record_iff hCode).mp hWrites with
        ⟨written, hSet, rfl⟩
      simp only [child?, entry?_record hCode]
      exact hKeeps hTyped hSet
  | @keyField d fields code key name hCode hKeeps =>
      rcases (writes_entry_record_iff hCode).mp hWrites with
        ⟨written, hSet, rfl⟩
      simp only [child?, field?]
      cases hVisible : d.visible? name with
      | none => rfl
      | some i =>
          exact (hKeeps i hVisible).field_set hTyped hSet
  | fieldKey hCode hKeeps =>
      rcases hWrites.field_record hTyped with
        ⟨i, old, hVisible, hOld, hType, rfl⟩
      simp only [child?, entry?_record hCode]
      exact (hKeeps i hVisible).find_field hTyped hOld hType

/- Where code tells children apart, a write leaves all others
   alone. -/
theorem child?_of_ne
    [SeparateKeys]
    (hWrites : v.Writes selector x after)
    (hValid : v.Valid)
    (hNe : other ≠ selector) :
    after.child? other = v.child? other :=
  hWrites.child?_of_spares hValid (spares_of_ne hNe)

/- No field comes or goes when an old child is written. -/
theorem isSome_field?
    (hWrites : v.Writes selector x after)
    (hConsistent : v.Consistent)
    (hOld : (v.child? selector).isSome)
    (name : String) :
    (after.field? name).isSome = (v.field? name).isSome := by
  cases v, selector using selectorCases with
  | slot v selector slot hSlot =>
      rcases hWrites.stored hSlot with ⟨hTakes, _, rfl⟩
      rw [child?_eq_slot? hSlot] at hOld
      rcases Option.isSome_iff_exists.mp hOld with
        ⟨old, hChild⟩
      rw [field?_eq_slot?, field?_eq_slot?, shape_store]
      exact isSome_slot?_store hConsistent hChild hTakes _
  | key d fields code key hCode =>
      rcases (writes_entry_record_iff hCode).mp hWrites with
        ⟨written, hSet, rfl⟩
      exact isSome_field?_record (code.length_set hSet) name

end Writes

end Value

end TreePath
