import TreePath.Proofs.Tree.Rewriting
import TreePath.Proofs.Tree.Selector

/-
  Writes of children one after another.  The later of two
  writes of one child wins, and independent children that are
  there may be written in either order.

  Key definitions include:
    * `Value.Independent`

  Main statements:
    * `Value.Writes.again`
    * `Value.Writes.swap`
-/

------------------------------------------------------------
-- Room for Children
------------------------------------------------------------

namespace TreePath

namespace Value

variable [RecordKeys]
variable {v x y : Value}
variable {selector another : Selector} {slot beyond : Slot}
variable {after beside : Value}

/- A field of a record is written by a value of its type. -/
theorem writes_field_record
    {d : Declaration Shape}
    {fields : List Value}
    {name : String}
    {i : Nat}
    {old : Value}
    (hVisible : d.visible? name = some i)
    (hOld : fields[i]? = some old)
    (hType : x.type = old.type) :
    (record d fields).Writes (.field name) x
      (.record d (fields.set i x)) := by
  have hPlace :
      (record d fields).fieldPlace? name =
        some ⟨old, fun y => record d (fields.set i y)⟩ := by
    simp only [fieldPlace?, hVisible, itemPlace?, hOld]
  exact setField_eq_put hPlace hType

/- In a well-typed value, what fits in a slot is written. -/
theorem writes_of_takes
    (hSlot : v.shape.slotFor? selector = some slot)
    (hTyped : v.WellTyped)
    (hTakes : v.Takes slot x)
    (hSuits : x.Suits v.shape slot) :
    v.Writes selector x (v.store slot x) := by
  cases selector with
  | field name =>
      rcases Shape.eq_fieldSlot_of_slotFor? hSlot with rfl
      cases v with
      | object attributes entries => rfl
      | record d fields =>
          rcases exists_visible_of_takes hTakes with
            ⟨i, hVisible, hLt, hField⟩
          have hOld := List.getElem?_eq_getElem hLt
          simp only [shape, hField] at hSuits ⊢
          apply writes_field_record hVisible hOld
          apply hSuits
          cases hTyped with
          | record hTypes hFields =>
              exact type_of_getElem?_fields hTypes hOld
      | _ => cases hTakes
  | entry key =>
      rcases Shape.eq_entry_of_slotFor? hSlot with rfl
      rw [takes_entry] at hTakes
      rcases keepsEntries_or_unkeyed hSlot with
        hOwn | ⟨d, fields, _, rfl⟩
      · simp only [Writes, setChild]
        rw [hOwn.setEntry, store_entry]
        exact setOwnEntry_of_takesEntry hTyped hTakes hSuits
      · cases hTakes

/- What is written in a slot may be written after a write in
   another one, or in the same. -/
theorem Writes.store_after
    (hTyped : v.WellTyped)
    (hNew : x.WellTyped)
    (hSlot : v.shape.slotFor? selector = some slot)
    (hBeyond : v.shape.slotFor? another = some beyond)
    (hFirst : v.Writes selector x after)
    (hSecond : v.Writes another y beside) :
    after.Writes another y ((v.store slot x).store beyond y) := by
  rcases hFirst.stored hSlot with ⟨_, hSuits, rfl⟩
  rcases hSecond.stored hBeyond with ⟨hTakes, hSuitsNext, rfl⟩
  apply writes_of_takes
  · rw [shape_store]
    exact hBeyond
  · exact wellTyped_store hTyped hNew (hSuits hTyped)
  · exact takes_store hTakes slot x
  · rw [shape_store]
    exact hSuitsNext hTyped

------------------------------------------------------------
-- Independent Children
------------------------------------------------------------

/-
  Two children are independent if they stand in two slots, or
  if the code of a record lets them be swapped.
-/
inductive Independent : Value → Selector → Selector → Prop
| slots
    {v : Value}
    {first second : Selector}
    {slot beyond : Slot}
    (hSlot : v.shape.slotFor? first = some slot)
    (hBeyond : v.shape.slotFor? second = some beyond)
    (hNe : second ≠ first) :
    Independent v first second
| keys
    {d : Declaration Shape}
    {fields : List Value}
    {code : KeyCode}
    {key other : Key}
    (hCode : RecordKeys.code? d = some code)
    (hSwaps : code.SwapsKeys d key other) :
    Independent (.record d fields) (.entry key) (.entry other)
| keyField
    {d : Declaration Shape}
    {fields : List Value}
    {code : KeyCode}
    {key : Key}
    {name : String}
    (hCode : RecordKeys.code? d = some code)
    (hSwaps :
      ∀ i, d.visible? name = some i →
        code.SwapsField d key i) :
    Independent (.record d fields) (.entry key) (.field name)
| fieldKey
    {d : Declaration Shape}
    {fields : List Value}
    {code : KeyCode}
    {key : Key}
    {name : String}
    (hCode : RecordKeys.code? d = some code)
    (hSwaps :
      ∀ i, d.visible? name = some i →
        code.SwapsField d key i) :
    Independent (.record d fields) (.field name) (.entry key)

namespace Independent

/- Children are independent of one another. -/
theorem symm
    (hApart : v.Independent selector another) :
    v.Independent another selector := by
  cases hApart with
  | slots hSlot hBeyond hNe =>
      exact .slots hBeyond hSlot hNe.symm
  | keys hCode hSwaps => exact .keys hCode hSwaps.symm
  | keyField hCode hSwaps => exact .fieldKey hCode hSwaps
  | fieldKey hCode hSwaps => exact .keyField hCode hSwaps

/- To write one of two independent children spares the
   other. -/
theorem spares
    (hApart : v.Independent selector another) :
    v.Spares selector another := by
  cases hApart with
  | slots hSlot hBeyond hNe => exact .slots hSlot hBeyond hNe
  | keys hCode hSwaps => exact .keys hCode hSwaps.keeps
  | keyField hCode hSwaps =>
      exact
        .keyField hCode
          (fun i hVisible => (hSwaps i hVisible).toKeepsField)
  | fieldKey hCode hSwaps =>
      exact
        .fieldKey hCode
          (fun i hVisible => (hSwaps i hVisible).toKeepsField)

end Independent

/- Where all code is lawful, all children are independent. -/
theorem independent_of_ne
    [LawfulKeys]
    (hNe : another ≠ selector) :
    v.Independent selector another := by
  cases v, selector, another using pairCases with
  | slots v first second slot beyond hSlot hBeyond =>
      exact .slots hSlot hBeyond hNe
  | keys d fields code key other hCode =>
      have hKey : other ≠ key := by
        rintro rfl
        exact hNe rfl
      exact .keys hCode ((LawfulKeys.lawful hCode).keys hKey)
  | keyField d fields code key name hCode =>
      refine .keyField hCode ?_
      intro i hVisible
      exact (LawfulKeys.lawful hCode).fields key hVisible
  | fieldKey d fields code key name hCode =>
      refine .fieldKey hCode ?_
      intro i hVisible
      exact (LawfulKeys.lawful hCode).fields key hVisible

/- The later of two writes of a child wins. -/
theorem Writes.again
    [RewritingKeys]
    (hTyped : v.WellTyped)
    (hNew : x.WellTyped)
    (hFirst : v.Writes selector x after)
    (hSecond : v.Writes selector y beside) :
    after.Writes selector y beside := by
  cases v, selector using selectorCases with
  | slot v selector slot hSlot =>
      have hAfter :=
        hFirst.store_after hTyped hNew hSlot hSlot hSecond
      rcases hSecond.stored hSlot with ⟨_, _, rfl⟩
      rw [store_store] at hAfter
      exact hAfter
  | key d fields code key hCode =>
      rcases (writes_entry_record_iff hCode).mp hFirst with
        ⟨written, hSet, rfl⟩
      rcases (writes_entry_record_iff hCode).mp hSecond with
        ⟨last, hSetNext, rfl⟩
      apply (writes_entry_record_iff hCode).mpr
      refine ⟨last, ?_, rfl⟩
      exact
        (RewritingKeys.rewrites hCode).set_set hTyped hNew hSet
          hSetNext

/- A field and an entry of a record are written in either
   order. -/
theorem Writes.swap_field_entry
    {d : Declaration Shape}
    {fields : List Value}
    {code : KeyCode}
    {name : String}
    {key : Key}
    (hCode : RecordKeys.code? d = some code)
    (hSwaps :
      ∀ i, d.visible? name = some i →
        code.SwapsField d key i)
    (hTyped : (record d fields).WellTyped)
    (hField : (record d fields).Writes (.field name) x after)
    (hEntry : (record d fields).Writes (.entry key) y beside) :
    ∃ last,
      after.Writes (.entry key) y last ∧
        beside.Writes (.field name) x last := by
  rcases hField.field_record hTyped with
    ⟨i, old, hVisible, hOld, hType, rfl⟩
  rcases (writes_entry_record_iff hCode).mp hEntry with
    ⟨written, hSet, rfl⟩
  have hSwapsField := hSwaps i hVisible
  have hKept := hSwapsField.field_set hTyped hSet
  refine ⟨.record d (written.set i x), ?_, ?_⟩
  · apply (writes_entry_record_iff hCode).mpr
    refine ⟨_, ?_, rfl⟩
    exact hSwapsField.set_field hTyped hOld hType hSet
  · rw [hOld] at hKept
    exact writes_field_record hVisible hKept hType

/- Two independent children that are there are written in
   either order. -/
theorem Writes.swap
    (hValid : v.Valid)
    (hNew : x.WellTyped)
    (hAlso : y.WellTyped)
    (hApart : v.Independent selector another)
    (hOld : (v.child? selector).isSome)
    (hOlder : (v.child? another).isSome)
    (hFirst : v.Writes selector x after)
    (hSecond : v.Writes another y beside) :
    ∃ last,
      after.Writes another y last ∧
        beside.Writes selector x last := by
  have hTyped := hValid.wellTyped
  cases hApart with
  | @slots v selector another slot beyond hSlot hBeyond hNe =>
      rw [child?_eq_slot? hSlot] at hOld
      rw [child?_eq_slot? hBeyond] at hOlder
      rcases Option.isSome_iff_exists.mp hOld with
        ⟨child, hChild⟩
      rcases Option.isSome_iff_exists.mp hOlder with
        ⟨older, hOther⟩
      have hBeside : beyond ≠ slot := by
        rintro rfl
        exact hNe (Shape.slotFor?_injective hBeyond hSlot)
      have hAfter :=
        hFirst.store_after hTyped hNew hSlot hBeyond hSecond
      have hBefore :=
        hSecond.store_after hTyped hAlso hBeyond hSlot hFirst
      rw [← store_comm hValid.consistent hBeside hChild hOther]
        at hBefore
      exact ⟨_, hAfter, hBefore⟩
  | @keys d fields code key other hCode hSwaps =>
      simp only [child?, entry?_record hCode] at hOld hOlder
      rcases (writes_entry_record_iff hCode).mp hFirst with
        ⟨written, hSet, rfl⟩
      rcases (writes_entry_record_iff hCode).mp hSecond with
        ⟨writtenNext, hSetNext, rfl⟩
      rcases hSwaps.set_comm hTyped hNew hAlso hOld hOlder hSet
          hSetNext with
        ⟨last, hAfter, hBefore⟩
      refine ⟨.record d last, ?_, ?_⟩
      · exact
          (writes_entry_record_iff hCode).mpr
            ⟨last, hAfter, rfl⟩
      · exact
          (writes_entry_record_iff hCode).mpr
            ⟨last, hBefore, rfl⟩
  | keyField hCode hSwaps =>
      rcases hSecond.swap_field_entry hCode hSwaps hTyped hFirst
        with ⟨last, hBefore, hAfter⟩
      exact ⟨last, hAfter, hBefore⟩
  | fieldKey hCode hSwaps =>
      exact hFirst.swap_field_entry hCode hSwaps hTyped hSecond

end Value

end TreePath
