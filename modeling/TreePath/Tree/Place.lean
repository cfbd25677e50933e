import TreePath.Tree.Lookup

/-
  This file defines places: values inside a larger one, each
  with the way to put another value there.

  Key definitions include:
    * `Place`
    * `Place.root`
    * `Place.inside`
    * `Value.fieldPlace?`
    * `Value.ownEntryPlace?`

  Main statements:
    * `Value.map_node_ownEntryPlace?`
    * `Value.put_node_of_ownEntryPlace?`
-/

namespace TreePath

------------------------------------------------------------
-- Places
------------------------------------------------------------

/-
  A place shows the value that stands there; `put` yields the
  larger value with another one in its stead.
-/
structure Place where
  node : Value
  put : Value → Value

namespace Place

/- The place of a whole value. -/
def root
    (v : Value) : Place :=
  ⟨v, id⟩

/- A place inside the value at another place. -/
def inside
    (outer inner : Place) : Place :=
  ⟨inner.node, fun x => outer.put (inner.put x)⟩

end Place

/- To set an item to itself changes nothing. -/
theorem set_of_getElem?
    {α : Type}
    {items : List α}
    {i : Nat}
    {item : α}
    (hItem : items[i]? = some item) :
    items.set i item = items := by
  rcases List.getElem?_eq_some_iff.mp hItem with ⟨hLt, rfl⟩
  exact List.set_getElem_self hLt

namespace Value

------------------------------------------------------------
-- Places of Items
------------------------------------------------------------

/- The place of an item in a list. -/
def itemPlace?
    (items : List Value)
    (rebuild : List Value → Value)
    (i : Nat) : Option Place :=
  match items[i]? with
  | none => none
  | some v => some ⟨v, fun x => rebuild (items.set i x)⟩

/- The place of a named entry. -/
def namedPlace?
    (entries : List (String × Value))
    (rebuild : List (String × Value) → Value)
    (name : String) : Option Place :=
  match Entries.find? name entries with
  | none => none
  | some v =>
      some ⟨v, fun x =>
        rebuild (Entries.replace name x entries)⟩

/- A document holds nothing but documents. -/
def asJson
    (old : Json) : Value → Json
| .json j => j
| _ => old

/- The place of an item of an array in a document. -/
def jsonItemPlace?
    (items : List Json)
    (i : Nat) : Option Place :=
  match items[i]? with
  | none => none
  | some j =>
      some ⟨.json j, fun x =>
        .json (.array (items.set i (asJson j x)))⟩

/- The place of a member of an object in a document. -/
def jsonMemberPlace?
    (members : List (String × Json))
    (name : String) : Option Place :=
  match Entries.find? name members with
  | none => none
  | some j =>
      some ⟨.json j, fun x =>
        .json (.object
          (Entries.replace name (asJson j x) members))⟩

------------------------------------------------------------
-- Places of Fields
------------------------------------------------------------

/- The place of a visible field. -/
def fieldPlace?
    (v : Value)
    (name : String) : Option Place :=
  match v with
  | .object attributes entries =>
      match attributes.place? name with
      | none => none
      | some i =>
          itemPlace? attributes.items
            (fun items =>
              .object { attributes with items := items }
                entries)
            i
  | .record d fields =>
      match d.visible? name with
      | none => none
      | some i => itemPlace? fields (.record d) i
  | _ => none

------------------------------------------------------------
-- Places of Entries
------------------------------------------------------------

/- The place of an entry of a container. -/
def ownEntryPlace?
    (v : Value)
    (key : Key) : Option Place :=
  match v, key with
  | .sequence kind elem items, .index i =>
      itemPlace? items (.sequence kind elem) i.toNat
  | .dictionary kind elem entries, .name name =>
      namedPlace? entries (.dictionary kind elem) name
  | .json (.object members), .name name =>
      jsonMemberPlace? members name
  | .json (.array items), .index i =>
      jsonItemPlace? items i.toNat
  | .object attributes entries, .name name =>
      namedPlace? entries (.object attributes) name
  | _, _ => none

------------------------------------------------------------
-- What Places Show
------------------------------------------------------------

/- The place of an item shows the item. -/
theorem map_node_itemPlace?
    (items : List Value)
    (rebuild : List Value → Value)
    (i : Nat) :
    (itemPlace? items rebuild i).map Place.node =
      items[i]? := by
  unfold itemPlace?
  cases items[i]? with
  | none => rfl
  | some v => rfl

/- The place of a named entry shows the entry. -/
theorem map_node_namedPlace?
    (entries : List (String × Value))
    (rebuild : List (String × Value) → Value)
    (name : String) :
    (namedPlace? entries rebuild name).map Place.node =
      Entries.find? name entries := by
  unfold namedPlace?
  cases Entries.find? name entries with
  | none => rfl
  | some v => rfl

/- A container has a place for each of its entries. -/
theorem map_node_ownEntryPlace?
    (v : Value)
    (key : Key) :
    (v.ownEntryPlace? key).map Place.node =
      v.ownEntry? key := by
  cases v with
  | sequence kind elem items =>
      cases key with
      | index i => exact map_node_itemPlace? items _ i.toNat
      | name name => rfl
  | dictionary kind elem entries =>
      cases key with
      | index i => rfl
      | name name => exact map_node_namedPlace? entries _ name
  | json j =>
      cases j with
      | object members =>
          cases key with
          | index i => rfl
          | name name =>
              simp only [ownEntryPlace?, ownEntry?,
                jsonMemberPlace?]
              cases Entries.find? name members with
              | none => rfl
              | some j => rfl
      | array items =>
          cases key with
          | index i =>
              simp only [ownEntryPlace?, ownEntry?,
                jsonItemPlace?]
              cases items[i.toNat]? with
              | none => rfl
              | some j => rfl
          | name name => rfl
      | _ => rfl
  | object attributes entries =>
      cases key with
      | index i => rfl
      | name name => exact map_node_namedPlace? entries _ name
  | _ => rfl

------------------------------------------------------------
-- What Places Put
------------------------------------------------------------

/- What stands at the place of an item may be put back. -/
theorem put_node_of_itemPlace?
    {items : List Value}
    {rebuild : List Value → Value}
    {i : Nat}
    {place : Place}
    (hPlace : itemPlace? items rebuild i = some place) :
    place.put place.node = rebuild items := by
  unfold itemPlace? at hPlace
  split at hPlace
  · cases hPlace
  · rename_i v hItem
    rcases Option.some.inj hPlace with rfl
    exact congrArg rebuild (set_of_getElem? hItem)

/- The same for a named entry. -/
theorem put_node_of_namedPlace?
    {entries : List (String × Value)}
    {rebuild : List (String × Value) → Value}
    {name : String}
    {place : Place}
    (hPlace : namedPlace? entries rebuild name = some place) :
    place.put place.node = rebuild entries := by
  unfold namedPlace? at hPlace
  split at hPlace
  · cases hPlace
  · rename_i v hFound
    rcases Option.some.inj hPlace with rfl
    exact congrArg rebuild (Entries.replace_of_find? hFound)

/- The same for an entry of any container. -/
theorem put_node_of_ownEntryPlace?
    {v : Value}
    {key : Key}
    {place : Place}
    (hPlace : v.ownEntryPlace? key = some place) :
    place.put place.node = v := by
  unfold ownEntryPlace? at hPlace
  split at hPlace
  · exact put_node_of_itemPlace? hPlace
  · exact put_node_of_namedPlace? hPlace
  · unfold jsonMemberPlace? at hPlace
    split at hPlace
    · cases hPlace
    · rename_i j hFound
      rcases Option.some.inj hPlace with rfl
      simp only [asJson, Entries.replace_of_find? hFound]
  · unfold jsonItemPlace? at hPlace
    split at hPlace
    · cases hPlace
    · rename_i j hItem
      rcases Option.some.inj hPlace with rfl
      simp only [asJson, set_of_getElem? hItem]
  · exact put_node_of_namedPlace? hPlace
  · cases hPlace

end Value

end TreePath
