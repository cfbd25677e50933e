import TreePath.Proofs.Tree.Keys

/-
  Places at any depth of a value.  Each is a slot, an entry of
  a record, or a place inside another one; what is put there
  is seen from the whole value.

  Key definitions include:
    * `Place.LiesIn`
    * `Value.Hereditary`

  Main statements:
    * `Place.LiesIn.put_node`
    * `Place.LiesIn.type_put`
    * `Place.LiesIn.shape_put`
    * `Place.LiesIn.put_of_hereditary`
    * `Value.liesIn_of_fieldPlace?`
    * `Value.liesIn_of_entryPlace?`
-/

------------------------------------------------------------
-- Places inside a Value
------------------------------------------------------------

namespace TreePath

variable [RecordKeys]

/- The places that a value has, inside one another. -/
inductive Place.LiesIn : Place → Value → Prop
| root
    (v : Value) :
    LiesIn (.root v) v
| slot
    {place : Place}
    {v : Value}
    {slot : Slot}
    (hLeads : place.Leads v slot) :
    LiesIn place v
| key
    {d : Declaration Shape}
    {fields : List Value}
    {code : KeyCode}
    {key : Key}
    {inner : KeyPlace fields}
    (hCode : RecordKeys.code? d = some code)
    (hInner : code.place? fields key = some inner) :
    LiesIn (inner.within d) (.record d fields)
| inside
    {outer inner : Place}
    {v : Value}
    (hOuter : LiesIn outer v)
    (hInner : LiesIn inner outer.node) :
    LiesIn (outer.inside inner) v

/-
  A property of trees that holds of whatever stands in a slot
  and that goes on to hold after stores.
-/
structure Value.Hereditary (p : Value → Prop) : Prop where
  slot :
    ∀ {v child slot},
      p v → v.slot? slot = some child → p child
  store :
    ∀ {v child x slot},
      p v → v.slot? slot = some child →
        p x → x.type = child.type → p (v.store slot x)

namespace Place.LiesIn

variable {place : Place} {v x : Value}

/- To put back what stands at a place changes nothing. -/
theorem put_node
    (hLies : place.LiesIn v) :
    place.put place.node = v := by
  induction hLies with
  | root v => rfl
  | slot hLeads => exact hLeads.put_node
  | @key d fields code key inner hCode hInner =>
      exact congrArg (Value.record d) inner.put_node
  | @inside outer inner v hOuter hInner ihOuter ihInner =>
      calc
        outer.put (inner.put inner.node)
            = outer.put outer.node := by rw [ihInner]
          _ = v := ihOuter

/- To put a value of the same type keeps the type. -/
theorem type_put
    (hLies : place.LiesIn v)
    (hType : x.type = place.node.type) :
    (place.put x).type = v.type := by
  induction hLies generalizing x with
  | root v => exact hType
  | slot hLeads =>
      rw [hLeads.put x hType]
      exact Value.type_store _ _ _
  | key hCode hInner => rfl
  | @inside outer inner v hOuter hInner ihOuter ihInner =>
      exact ihOuter (ihInner hType)

/- To put one of the same declaration keeps that too. -/
theorem shape_put
    (hLies : place.LiesIn v)
    (hShape : x.shape = place.node.shape) :
    (place.put x).shape = v.shape := by
  induction hLies generalizing x with
  | root v => exact hShape
  | slot hLeads =>
      rw [hLeads.put x (Value.type_of_shape hShape)]
      exact Value.shape_store _ _ _
  | key hCode hInner => rfl
  | @inside outer inner v hOuter hInner ihOuter ihInner =>
      exact ihOuter (ihInner hShape)

section Hereditary

variable {p : Value → Prop}

/- What is inherited holds of what stands at a place. -/
theorem node_of_hereditary
    (hSlots : Value.Hereditary p)
    (hKeys : RecordKeys.All (·.Keeps · p))
    (hLies : place.LiesIn v)
    (hHolds : p v) :
    p place.node := by
  induction hLies with
  | root v => exact hHolds
  | slot hLeads => exact hSlots.slot hHolds hLeads.node
  | @key d fields code key inner hCode hInner =>
      have hFound :
          code.find? fields key = some inner.node := by
        rw [← code.map_node_place?, hInner]
        rfl
      exact (hKeys hCode).find hHolds hFound
  | inside hOuter hInner ihOuter ihInner =>
      exact ihInner (ihOuter hHolds)

/- It goes on to hold when a value of the type is put there. -/
theorem put_of_hereditary
    (hSlots : Value.Hereditary p)
    (hKeys : RecordKeys.All (·.Keeps · p))
    (hLies : place.LiesIn v)
    (hHolds : p v)
    (hNew : p x)
    (hType : x.type = place.node.type) :
    p (place.put x) := by
  induction hLies generalizing x with
  | root v => exact hNew
  | slot hLeads =>
      rw [hLeads.put x hType]
      exact hSlots.store hHolds hLeads.node hNew hType
  | key hCode hInner =>
      exact (hKeys hCode).put hHolds hInner hNew hType
  | @inside outer inner v hOuter hInner ihOuter ihInner =>
      have hNode :=
        node_of_hereditary hSlots hKeys hOuter hHolds
      have hPut : p (inner.put x) := ihInner hNode hNew hType
      exact ihOuter hHolds hPut (hInner.type_put hType)

end Hereditary

end Place.LiesIn

------------------------------------------------------------
-- Types and Consistency
------------------------------------------------------------

namespace Value

omit [RecordKeys] in
/- Typing is inherited. -/
theorem hereditary_wellTyped :
    Hereditary WellTyped := by
  constructor
  · intro v child slot hTyped hChild
    exact (standing_of_slot? hTyped hChild).1
  · intro v child x slot hTyped hChild hNew hType
    exact (standsFor_store hTyped hChild ⟨hNew, hType⟩).wellTyped

omit [RecordKeys] in
/- So is consistency. -/
theorem hereditary_consistent :
    Hereditary Consistent := by
  constructor
  · intro v child slot hConsistent hChild
    exact consistent_of_slot? hConsistent hChild
  · intro v child x slot hConsistent hChild hNew hType
    exact consistent_store hConsistent hNew slot

end Value

namespace Place.LiesIn

variable [SoundKeys] {place : Place} {v x : Value}

/- What stands at a place in a well-typed tree is well typed. -/
theorem wellTyped_node
    (hLies : place.LiesIn v)
    (hTyped : v.WellTyped) :
    place.node.WellTyped :=
  hLies.node_of_hereditary Value.hereditary_wellTyped
    SoundKeys.wellTyped hTyped

/-
  To put a value that may stand for the one at a place yields
  one that may stand for the whole.
-/
theorem standsFor_put
    (hLies : place.LiesIn v)
    (hTyped : v.WellTyped)
    (hNew : x.StandsFor place.node) :
    (place.put x).StandsFor v :=
  ⟨hLies.put_of_hereditary Value.hereditary_wellTyped
      SoundKeys.wellTyped hTyped hNew.wellTyped hNew.type,
    hLies.type_put hNew.type⟩

/- What stands at a place in a consistent tree is consistent. -/
theorem consistent_node
    (hLies : place.LiesIn v)
    (hConsistent : v.Consistent) :
    place.node.Consistent :=
  hLies.node_of_hereditary Value.hereditary_consistent
    SoundKeys.consistent hConsistent

/- So is the whole after one of the type was put there. -/
theorem consistent_put
    (hLies : place.LiesIn v)
    (hConsistent : v.Consistent)
    (hNew : x.Consistent)
    (hType : x.type = place.node.type) :
    (place.put x).Consistent :=
  hLies.put_of_hereditary Value.hereditary_consistent
    SoundKeys.consistent hConsistent hNew hType

end Place.LiesIn

------------------------------------------------------------
-- Places of Entries and Fields
------------------------------------------------------------

namespace Value

variable {v : Value} {place : Place}

/- The place of a field lies in the value that has it. -/
theorem liesIn_of_fieldPlace?
    {name : String}
    (hPlace : v.fieldPlace? name = some place) :
    place.LiesIn v :=
  .slot (leads_of_fieldPlace? hPlace)

/- So does the place of an entry. -/
theorem liesIn_of_entryPlace?
    {key : Key}
    (hPlace : v.entryPlace? key = some place) :
    place.LiesIn v := by
  cases v using keyCases with
  | record d fields code hCode =>
      rw [entryPlace?_record_eq_some_iff hCode] at hPlace
      rcases hPlace with ⟨inner, hInner, rfl⟩
      exact .key hCode hInner
  | unkeyed d fields hCode =>
      rw [entryPlace?_unkeyed hCode] at hPlace
      cases hPlace
  | own v hOwn =>
      rw [hOwn.entryPlace?] at hPlace
      exact .slot (leads_of_ownEntryPlace? hPlace)

end Value

end TreePath
