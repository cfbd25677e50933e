import TreePath.Proofs.Tree.Places

/-
  All that a write can do to a value.  It is refused, or it
  stores the new value in one slot, where there is room for it
  and where it suits, or the code of a record has written it;
  what holds of these holds of every write.

  Key definitions include:
    * `Value.Stores`
    * `Value.Edits`

  Main statements:
    * `Value.stores_setField`
    * `Value.stores_setOwnEntry`
    * `Value.Edits.node_of_error`
    * `Value.Edits.shape_node`
    * `Value.Edits.standsFor`
    * `Value.Edits.consistent`
    * `Value.edits_setEntry`
-/

------------------------------------------------------------
-- Reworded Errors and Updates in Place
------------------------------------------------------------

namespace TreePath

section Rewording

variable {ε ε' ε'' α : Type}

/- There is nothing to reword in a success. -/
theorem mapError_ok
    (f : ε → ε')
    (a : α) :
    (Except.ok a : Except ε α).mapError f = .ok a :=
  rfl

/- An error is reworded. -/
theorem mapError_error
    (f : ε → ε')
    (e : ε) :
    (Except.error e : Except ε α).mapError f = .error (f e) :=
  rfl

/- To reword an error twice is to do so once. -/
theorem mapError_mapError
    (f : ε → ε')
    (g : ε' → ε'')
    (result : Except ε α) :
    (result.mapError f).mapError g =
      result.mapError (fun e => g (f e)) := by
  cases result with
  | error e => rfl
  | ok a => rfl

namespace Update

/- A write that is not refused is one that took place. -/
theorem eq_done_of_result
    {u : Update ε}
    (hResult : u.result = .ok ()) :
    u = .done u.node := by
  rcases u with ⟨node, result⟩
  rcases hResult with rfl
  rfl

/- A write at a place takes place if it does there. -/
theorem within_eq_done_iff
    {u : Update ε}
    {place : Place}
    {f : ε → ε'}
    {after : Value} :
    (u.within place).mapError f = .done after ↔
      ∃ inner, u = .done inner ∧ after = place.put inner := by
  rcases u with ⟨node, result⟩
  cases result with
  | error e =>
      simp [Update.within, Update.mapError, Update.done,
        mapError_error]
  | ok done =>
      simp [Update.within, Update.mapError, Update.done,
        mapError_ok, eq_comm]

end Update

end Rewording

------------------------------------------------------------
-- Overwriting
------------------------------------------------------------

namespace Value

/- A value is overwritten by one of its type. -/
theorem overwrite_of_type
    {v x : Value}
    (hType : x.type = v.type) :
    v.overwrite x = .done x := by
  unfold overwrite
  rw [if_pos hType]

/- Values of another type are handed back. -/
theorem overwrite_of_type_ne
    {v x : Value}
    (hType : x.type ≠ v.type) :
    v.overwrite x = .refuse v x := by
  unfold overwrite
  rw [if_neg hType]

/- To overwrite a slot is to put the value there. -/
theorem overwriteSlot_within
    {place : Place}
    {x : Value}
    (hType : x.type = place.node.type) :
    (place.node.overwriteSlot x).within place =
      .done (place.put x) := by
  unfold overwriteSlot
  rw [overwrite_of_type hType]
  rfl

------------------------------------------------------------
-- Writes to One Slot
------------------------------------------------------------

/-
  The updates that a write to a slot can come down to.  A
  refusal leaves what is there; otherwise there is room for
  the new value and, in a well-typed value, it suits the slot.
-/
inductive Stores
    (v : Value)
    (slot : Slot)
    (x : Value) : Update AssignError → Prop
| refused
    (e : AssignError) :
    Stores v slot x (.refuse v e)
| stored
    (hTakes : v.Takes slot x)
    (hSuits : v.WellTyped → x.Suits v.shape slot) :
    Stores v slot x (.done (v.store slot x))

/- What is at a place is replaced or left alone. -/
theorem stores_overwritePlace
    {v : Value}
    {place : Place}
    {slot : Slot}
    (hLeads : place.Leads v slot)
    (x : Value) :
    v.Stores slot x
      ((place.node.overwriteSlot x).within place) := by
  by_cases hType : x.type = place.node.type
  · rw [overwriteSlot_within hType, hLeads.put x hType]
    refine .stored (hLeads.takes hType) ?_
    intro hTyped asked hAsked
    rw [hType]
    exact (standing_of_slot? hTyped hLeads.node).2 asked hAsked
  · unfold overwriteSlot
    rw [overwrite_of_type_ne hType]
    have hKept := hLeads.put_node
    simp only [Update.refuse, Update.mapError, Update.within,
      mapError_error, hKept]
    exact .refused _

/- A field is written in its slot. -/
theorem stores_setField
    (v : Value)
    (name : String)
    (x : Value) :
    v.Stores (v.shape.fieldSlot name) x
      (v.setField name x) := by
  cases v with
  | object attributes entries =>
      have hTakes :
          (object attributes entries).Takes (.attr name) x :=
        trivial
      refine .stored hTakes ?_
      intro _ asked hAsked
      cases hAsked
  | record d fields =>
      simp only [setField]
      split
      · exact .refused _
      · rename_i place hPlace
        exact
          stores_overwritePlace (leads_of_fieldPlace? hPlace) x
  | _ => exact .refused _

/- An item of a list is written in its slot. -/
theorem stores_setItem
    (kind : SequenceKind)
    (elem : Shape)
    (items : List Value)
    (key : Key)
    (x : Value) :
    Stores (.sequence kind elem items) (.entry key) x
      ((Value.sequence kind elem items).setOwnEntry key x) := by
  cases key with
  | name name => exact .refused _
  | index i =>
      simp only [setOwnEntry, setItem]
      split
      · exact .refused _
      · rename_i place hPlace
        have hLeads :
            place.Leads (.sequence kind elem items)
              (.entry (.index i)) :=
          leads_of_ownEntryPlace? hPlace
        exact stores_overwritePlace hLeads x

/- An entry of a document is written in its slot. -/
theorem stores_setJsonEntry
    (j : Json)
    (key : Key)
    (x : Value) :
    Stores (.json j) (.entry key) x (setJsonEntry j key x) := by
  unfold setJsonEntry
  cases x with
  | json new =>
      have hSuits :
          (Value.json new).Suits .json (.entry key) := by
        intro asked hAsked
        exact Option.some.inj hAsked
      cases j with
      | object members =>
          cases key with
          | index i => exact .refused _
          | name name =>
              have hTakes :
                  (json (.object members)).Takes
                    (.entry (.name name)) (.json new) :=
                rfl
              exact .stored hTakes (fun _ => hSuits)
      | array items =>
          cases key with
          | name name => exact .refused _
          | index i =>
              by_cases hLt : i.toNat < items.length
              · simp only [hLt, if_true]
                have hTakes :
                    (json (.array items)).Takes
                      (.entry (.index i)) (.json new) :=
                  ⟨hLt, rfl⟩
                exact .stored hTakes (fun _ => hSuits)
              · simp only [hLt, if_false]
                exact .refused _
      | _ => exact .refused _
  | _ => exact .refused _

/- An entry of a container is written in its slot. -/
theorem stores_setOwnEntry
    (v : Value)
    (key : Key)
    (x : Value) :
    v.Stores (.entry key) x (v.setOwnEntry key x) := by
  cases v with
  | sequence kind elem items =>
      exact stores_setItem kind elem items key x
  | dictionary kind elem entries =>
      cases key with
      | index i => exact .refused _
      | name name =>
          simp only [setOwnEntry]
          by_cases hElem : x.type = elem.nominal
          · rw [if_pos hElem]
            have hTakes :
                (dictionary kind elem entries).Takes
                  (.entry (.name name)) x :=
              trivial
            refine .stored hTakes ?_
            intro _ asked hAsked
            rcases Option.some.inj hAsked with rfl
            exact hElem
          · rw [if_neg hElem]
            exact .refused _
  | json j => exact stores_setJsonEntry j key x
  | object attributes entries =>
      cases key with
      | index i => exact .refused _
      | name name =>
          have hTakes :
              (object attributes entries).Takes
                (.entry (.name name)) x :=
            trivial
          refine .stored hTakes ?_
          intro _ asked hAsked
          cases hAsked
  | _ => exact .refused _

------------------------------------------------------------
-- Edits
------------------------------------------------------------

section Edits

variable [RecordKeys]

/-
  The updates that a write of a value anywhere in another one
  can come down to.
-/
inductive Edits
    {ε : Type}
    (x : Value) : Value → Update ε → Prop
| refused
    (v : Value)
    (e : ε) :
    Edits x v (.refuse v e)
| stored
    {v : Value}
    {slot : Slot}
    (hSuits : v.WellTyped → x.Suits v.shape slot) :
    Edits x v (.done (v.store slot x))
| answered
    {d : Declaration Shape}
    {fields after : List Value}
    {code : KeyCode}
    {key : Key}
    (hCode : RecordKeys.code? d = some code)
    (hSet : code.set fields key x = .ok after) :
    Edits x (.record d fields) (.done (.record d after))
| inside
    {v : Value}
    {place : Place}
    {u : Update ε}
    (hLies : place.LiesIn v)
    (hInner : Edits x place.node u) :
    Edits x v (u.within place)

/- A write to one slot is an edit. -/
theorem Stores.edits
    {v x : Value}
    {slot : Slot}
    {u : Update AssignError}
    (hStores : v.Stores slot x u) :
    x.Edits v u := by
  cases hStores with
  | refused e => exact .refused v e
  | stored hTakes hSuits => exact .stored hSuits

namespace Edits

variable {ε ε' : Type}
variable {v x : Value} {u : Update ε}

/- Rewording a refusal does not change what is written. -/
theorem mapError
    (hEdits : x.Edits v u)
    (f : ε → ε') :
    x.Edits v (u.mapError f) := by
  induction hEdits with
  | refused v e => exact refused v (f e)
  | stored hSuits => exact stored hSuits
  | answered hCode hSet => exact answered hCode hSet
  | inside hLies _ ih => exact inside hLies ih

/- Whether it is refused or not, a write keeps the type and
   the declaration. -/
theorem shape_node
    (hEdits : x.Edits v u) :
    u.node.shape = v.shape := by
  induction hEdits with
  | refused v e => rfl
  | stored hSuits => exact shape_store _ _ x
  | answered hCode hSet => rfl
  | inside hLies _ ih => exact hLies.shape_put ih

/- In particular, the type that is compared. -/
theorem type_node
    (hEdits : x.Edits v u) :
    u.node.type = v.type :=
  type_of_shape hEdits.shape_node

section Sound

variable [SoundKeys]

/-
  Whether it is refused or not, a write leaves a well-typed
  value of the same type.
-/
theorem standsFor
    (hEdits : x.Edits v u)
    (hTyped : v.WellTyped)
    (hNew : x.WellTyped) :
    u.node.StandsFor v := by
  induction hEdits with
  | refused v e => exact hTyped.standsFor_self
  | @stored v slot hSuits =>
      exact
        ⟨wellTyped_store hTyped hNew (hSuits hTyped),
          type_store v slot x⟩
  | answered hCode hSet =>
      exact
        ⟨(SoundKeys.wellTyped hCode).set hTyped hNew hSet, rfl⟩
  | inside hLies _ ih =>
      exact
        hLies.standsFor_put hTyped
          (ih (hLies.wellTyped_node hTyped))

/- It leaves a consistent value consistent. -/
theorem consistent
    (hEdits : x.Edits v u)
    (hConsistent : v.Consistent)
    (hNew : x.Consistent) :
    u.node.Consistent := by
  induction hEdits with
  | refused v e => exact hConsistent
  | @stored v slot hSuits =>
      exact consistent_store hConsistent hNew slot
  | answered hCode hSet =>
      exact
        (SoundKeys.consistent hCode).set hConsistent hNew hSet
  | inside hLies hInner ih =>
      exact
        hLies.consistent_put hConsistent
          (ih (hLies.consistent_node hConsistent))
          hInner.type_node

end Sound

end Edits

/- A write to an entry is an edit. -/
theorem edits_setEntry
    (v : Value)
    (key : Key)
    (x : Value) :
    x.Edits v (v.setEntry key x) := by
  cases v using keyCases with
  | record d fields code hCode =>
      rw [setEntry_record hCode]
      cases hSet : code.set fields key x with
      | ok after => exact .answered hCode hSet
      | error e => exact .refused _ e
  | unkeyed d fields hCode =>
      simp only [setEntry, hCode]
      exact .refused _ _
  | own v hOwn =>
      rw [hOwn.setEntry]
      exact (stores_setOwnEntry v key x).edits

end Edits

end Value

end TreePath
