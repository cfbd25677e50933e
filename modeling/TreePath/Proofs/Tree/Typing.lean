import TreePath.Proofs.Tree.Restore

/-
  Well-typed trees, in which every value has the type that
  the container around it asks for.  A store of a well-typed
  value of the right type keeps a tree well typed.

  Key definitions include:
    * `Value.WellTyped`
    * `Shape.slotType?`
    * `Value.Suits`
    * `Value.StandsFor`

  Main statements:
    * `Value.wellTyped_store`
    * `Value.standsFor_store`
-/

------------------------------------------------------------
-- Types of Contents
------------------------------------------------------------

namespace TreePath

/- Arrays hold as many items as their type says. -/
def SequenceKind.Fits : SequenceKind → Nat → Prop
| .array size, count => count = size
| _, _ => True

/-
  The type that a slot asks for, if it asks for one, without
  declarations.  Objects take values of any type.
-/
def Shape.slotType?
    (type : Shape)
    (slot : Slot) : Option Shape :=
  match type, slot with
  | .record d, .field i =>
      d.fields[i]?.map (fun f => f.type.nominal)
  | .sequence _ elem, .entry _ => some elem.nominal
  | .dictionary _ elem, .entry _ => some elem.nominal
  | .json, .entry _ => some .json
  | _, _ => none

namespace Value

/-
  Items and entries have exactly the type of their container,
  arrays their number of items, and fields their declared
  types.  Documents hold nothing but documents by the way
  they are made.
-/
inductive WellTyped : Value → Prop
| scalar
    (s : Scalar) :
    WellTyped (.scalar s)
| missing
    (elem : Shape) :
    WellTyped (.option elem none)
| present
    {elem : Shape}
    {content : Value}
    (hType : content.type = elem.nominal)
    (hContent : WellTyped content) :
    WellTyped (.option elem (some content))
| sequence
    {kind : SequenceKind}
    {elem : Shape}
    {items : List Value}
    (hSize : kind.Fits items.length)
    (hTypes : ∀ item ∈ items, item.type = elem.nominal)
    (hItems : ∀ item ∈ items, WellTyped item) :
    WellTyped (.sequence kind elem items)
| dictionary
    {kind : DictionaryKind}
    {elem : Shape}
    {entries : List (String × Value)}
    (hTypes : ∀ entry ∈ entries, entry.2.type = elem.nominal)
    (hEntries : ∀ entry ∈ entries, WellTyped entry.2) :
    WellTyped (.dictionary kind elem entries)
| json
    (j : Json) :
    WellTyped (.json j)
| object
    {attributes : Attributes Value}
    {entries : List (String × Value)}
    (hItems : ∀ item ∈ attributes.items, WellTyped item)
    (hEntries : ∀ entry ∈ entries, WellTyped entry.2) :
    WellTyped (.object attributes entries)
| record
    {d : Declaration Shape}
    {fields : List Value}
    (hTypes :
      fields.map type = d.fields.map (fun f => f.type.nominal))
    (hFields : ∀ field ∈ fields, WellTyped field) :
    WellTyped (.record d fields)

/- A value suits a slot that asks for its type or for none. -/
def Suits
    (x : Value)
    (type : Shape)
    (slot : Slot) : Prop :=
  ∀ asked, type.slotType? slot = some asked → x.type = asked

/- A value that may stand where another one stands. -/
structure StandsFor (x v : Value) : Prop where
  wellTyped : x.WellTyped
  type : x.type = v.type

/- A well-typed value may stay where it is. -/
theorem WellTyped.standsFor_self
    {v : Value}
    (hTyped : v.WellTyped) :
    v.StandsFor v :=
  ⟨hTyped, rfl⟩

------------------------------------------------------------
-- Looking into a Well-Typed Value
------------------------------------------------------------

/- The fields of a record have their declared types. -/
theorem type_of_getElem?_fields
    {d : Declaration Shape}
    {fields : List Value}
    {i : Nat}
    {child : Value}
    (hTypes :
      fields.map type = d.fields.map (fun f => f.type.nominal))
    (hChild : fields[i]? = some child) :
    d.fields[i]?.map (fun f => f.type.nominal) =
      some child.type := by
  rw [← List.getElem?_map, ← hTypes, List.getElem?_map, hChild]
  rfl

/- What stands at a key suits it. -/
theorem standing_of_ownEntry?
    {v child : Value}
    {key : Key}
    (hTyped : v.WellTyped)
    (hChild : v.ownEntry? key = some child) :
    child.WellTyped ∧ child.Suits v.shape (.entry key) := by
  cases v, key using entryCases with
  | sequence kind elem items i =>
      cases hTyped with
      | sequence hSize hTypes hItems =>
          have hMem := List.mem_of_getElem? hChild
          refine ⟨hItems child hMem, ?_⟩
          intro asked hAsked
          rcases Option.some.inj hAsked with rfl
          exact hTypes child hMem
  | dictionary kind elem entries name =>
      cases hTyped with
      | dictionary hTypes hEntries =>
          have hMem := Entries.mem_of_find? hChild
          refine ⟨hEntries _ hMem, ?_⟩
          intro asked hAsked
          rcases Option.some.inj hAsked with rfl
          exact hTypes _ hMem
  | document members name =>
      rcases Option.map_eq_some_iff.mp hChild with ⟨j, _, rfl⟩
      refine ⟨.json j, ?_⟩
      intro asked hAsked
      exact Option.some.inj hAsked
  | array items i =>
      rcases Option.map_eq_some_iff.mp hChild with ⟨j, _, rfl⟩
      refine ⟨.json j, ?_⟩
      intro asked hAsked
      exact Option.some.inj hAsked
  | object attributes entries name =>
      cases hTyped with
      | object hItems hEntries =>
          refine ⟨hEntries _ (Entries.mem_of_find? hChild), ?_⟩
          intro asked hAsked
          cases hAsked
  | other v key hLacks =>
      rw [hLacks.absent] at hChild
      cases hChild

/- What stands in a slot suits it. -/
theorem standing_of_slot?
    {v child : Value}
    {slot : Slot}
    (hTyped : v.WellTyped)
    (hChild : v.slot? slot = some child) :
    child.WellTyped ∧ child.Suits v.shape slot := by
  cases v, slot using slotCases with
  | record d fields i =>
      cases hTyped with
      | record hTypes hFields =>
          have hMem := List.mem_of_getElem? hChild
          refine ⟨hFields child hMem, ?_⟩
          intro asked hAsked
          have hDeclared :=
            type_of_getElem?_fields hTypes hChild
          rw [shape, Shape.slotType?, hDeclared] at hAsked
          exact Option.some.inj hAsked
  | object attributes entries name =>
      cases hTyped with
      | object hItems hEntries =>
          have hMem := Attributes.mem_items_of_find? hChild
          refine ⟨hItems child hMem, ?_⟩
          intro asked hAsked
          cases hAsked
  | entry v key =>
      rw [slot?_entry] at hChild
      exact standing_of_ownEntry? hTyped hChild
  | other v slot hLacks =>
      rw [hLacks.absent] at hChild
      cases hChild

------------------------------------------------------------
-- Stores
------------------------------------------------------------

/- The types of fields stay if one of the type goes in. -/
theorem map_type_set
    {d : Declaration Shape}
    {fields : List Value}
    {x : Value}
    {i : Nat}
    (hTypes :
      fields.map type = d.fields.map (fun f => f.type.nominal))
    (hSuits : x.Suits (.record d) (.field i)) :
    (fields.set i x).map type =
      d.fields.map (fun f => f.type.nominal) := by
  rw [List.map_set, hTypes]
  cases hDeclared : d.fields[i]? with
  | none =>
      rw [List.set_eq_of_length_le]
      simpa using hDeclared
  | some f =>
      have hType : x.type = f.type.nominal := by
        apply hSuits
        simp [Shape.slotType?, hDeclared]
      apply set_of_getElem?
      rw [List.getElem?_map, hDeclared, hType]
      rfl

/- A suitable entry keeps a container well typed. -/
theorem wellTyped_storeEntry
    {v x : Value}
    {key : Key}
    (hTyped : v.WellTyped)
    (hNew : x.WellTyped)
    (hSuits : x.Suits v.shape (.entry key)) :
    (v.storeEntry key x).WellTyped := by
  cases v, key using entryCases with
  | sequence kind elem items i =>
      have hType : x.type = elem.nominal := hSuits _ rfl
      cases hTyped with
      | sequence hSize hTypes hItems =>
          refine .sequence ?_ ?_ ?_
          · rw [List.length_set]
            exact hSize
          · exact forall_mem_set hTypes hType i.toNat
          · exact forall_mem_set hItems hNew i.toNat
  | dictionary kind elem entries name =>
      have hType : x.type = elem.nominal := hSuits _ rfl
      cases hTyped with
      | dictionary hTypes hEntries =>
          refine .dictionary ?_ ?_
          · exact
              forall_mem_insert
                (p := fun v => v.type = elem.nominal)
                hTypes hType name
          · exact forall_mem_insert hEntries hNew name
  | document members name => exact .json _
  | array items i => exact .json _
  | object attributes entries name =>
      cases hTyped with
      | object hItems hEntries =>
          exact
            .object hItems (forall_mem_insert hEntries hNew name)
  | other v key hLacks =>
      rw [hLacks.unchanged]
      exact hTyped

/- A suitable value keeps a tree well typed. -/
theorem wellTyped_store
    {v x : Value}
    {slot : Slot}
    (hTyped : v.WellTyped)
    (hNew : x.WellTyped)
    (hSuits : x.Suits v.shape slot) :
    (v.store slot x).WellTyped := by
  cases v, slot using slotCases with
  | record d fields i =>
      cases hTyped with
      | record hTypes hFields =>
          refine .record ?_ ?_
          · exact map_type_set hTypes hSuits
          · exact forall_mem_set hFields hNew i
  | object attributes entries name =>
      cases hTyped with
      | object hItems hEntries =>
          refine .object ?_ hEntries
          intro item hMem
          rcases Attributes.mem_items_insert hMem with
            rfl | hOld
          · exact hNew
          · exact hItems item hOld
  | entry v key =>
      rw [store_entry]
      exact wellTyped_storeEntry hTyped hNew hSuits
  | other v slot hLacks =>
      rw [hLacks.unchanged]
      exact hTyped

/-
  A store yields a value that may stand for the old one, if
  what is stored may stand for what was there.
-/
theorem standsFor_store
    {v child x : Value}
    {slot : Slot}
    (hTyped : v.WellTyped)
    (hChild : v.slot? slot = some child)
    (hNew : x.StandsFor child) :
    (v.store slot x).StandsFor v := by
  refine ⟨?_, type_store v slot x⟩
  apply wellTyped_store hTyped hNew.wellTyped
  intro asked hAsked
  rw [hNew.type]
  exact (standing_of_slot? hTyped hChild).2 asked hAsked

end Value

end TreePath
