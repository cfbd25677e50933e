import TreePath.Proofs.Tree.Agreement
import TreePath.Proofs.Tree.Edits

/-
  Documents and containers of documents.  An object of a
  document is looked into and written to as the dictionary of
  its members is, and an array as the sequence of its items.

  Key definitions include:
    * `Value.Mirrors`
    * `Place.Mirrors`
    * `AssignError.untyped`

  Main statements:
    * `Value.Mirrors.entryPlace?`
    * `Value.Mirrors.setEntry`
-/

------------------------------------------------------------
-- Mapped Entries
------------------------------------------------------------

namespace TreePath

namespace Entries

variable {α β : Type}

/- The same names with other items. -/
def map
    (f : α → β)
    (entries : List (String × α)) : List (String × β) :=
  List.map (fun entry => (entry.1, f entry.2)) entries

/- What is found is mapped. -/
theorem find?_map
    (f : α → β)
    (name : String)
    (entries : List (String × α)) :
    find? name (map f entries) = (find? name entries).map f := by
  induction entries with
  | nil => rfl
  | cons entry entries ih =>
      rcases entry with ⟨key, item⟩
      simp only [map, List.map_cons, find?] at ih ⊢
      by_cases hKey : key = name
      · simp [hKey]
      · simp [hKey, ih]

/- What is put in the stead of an item is mapped. -/
theorem replace_map
    (f : α → β)
    (name : String)
    (item : α)
    (entries : List (String × α)) :
    replace name (f item) (map f entries) =
      map f (replace name item entries) := by
  induction entries with
  | nil => rfl
  | cons entry entries ih =>
      rcases entry with ⟨key, old⟩
      simp only [map, List.map_cons, replace] at ih ⊢
      by_cases hKey : key = name
      · simp [hKey]
      · simp [hKey, ih]

/- A new item is mapped at its place. -/
theorem place_map
    (f : α → β)
    (name : String)
    (item : α)
    (entries : List (String × α)) :
    place name (f item) (map f entries) =
      map f (place name item entries) := by
  induction entries with
  | nil => rfl
  | cons entry entries ih =>
      rcases entry with ⟨key, old⟩
      simp only [map, List.map_cons, place] at ih ⊢
      by_cases hLess : name < key
      · simp [hLess]
      · simp [hLess, ih]

/- The same for an insertion. -/
theorem insert_map
    (f : α → β)
    (name : String)
    (item : α)
    (entries : List (String × α)) :
    insert name (f item) (map f entries) =
      map f (insert name item entries) := by
  unfold insert
  rw [find?_map]
  cases find? name entries with
  | none => exact place_map f name item entries
  | some old => exact replace_map f name item entries

end Entries

------------------------------------------------------------
-- Mirrors
------------------------------------------------------------

/-
  A document that holds others, and the container that holds
  the same documents under the same keys.
-/
inductive Value.Mirrors : Value → Value → Prop
| object
    (members : List (String × Json)) :
    Mirrors (.json (.object members))
      (.dictionary .ordered .json (Entries.map .json members))
| array
    (items : List Json) :
    Mirrors (.json (.array items))
      (.sequence .vector .json (items.map .json))

/-
  Two places that show the same document, and that mirror each
  other with any document put there.
-/
structure Place.Mirrors
    (p q : Place) : Prop where
  node : p.node = q.node
  document : p.node.type = .json
  put : ∀ j, (p.put (.json j)).Mirrors (q.put (.json j))

namespace Value

section Entries

variable [RecordKeys]

/- The entries of documents are documents. -/
theorem type_of_entry?
    {j : Json}
    {key : Key}
    {child : Value}
    (hFound : Value.entry? (.json j) key = some child) :
    child.type = .json := by
  cases j with
  | object members =>
      cases key with
      | index i => cases hFound
      | name name =>
          rcases Option.map_eq_some_iff.mp hFound with
            ⟨member, _, rfl⟩
          rfl
  | array items =>
      cases key with
      | name name => cases hFound
      | index i =>
          rcases Option.map_eq_some_iff.mp hFound with
            ⟨item, _, rfl⟩
          rfl
  | _ => cases hFound

namespace Mirrors

variable {v w : Value}

omit [RecordKeys] in
/- The first of the two is a document. -/
theorem document
    (hMirrors : v.Mirrors w) :
    v.type = .json := by
  cases hMirrors with
  | object members => rfl
  | array items => rfl

/- Both have entries. -/
theorem isKeyed
    (hMirrors : v.Mirrors w) :
    v.isKeyed = true ∧ w.isKeyed = true := by
  cases hMirrors with
  | object members => exact ⟨rfl, rfl⟩
  | array items => exact ⟨rfl, rfl⟩

omit [RecordKeys] in
/- Neither has fields. -/
theorem hasFields
    (hMirrors : v.Mirrors w) :
    v.hasFields = false ∧ w.hasFields = false := by
  cases hMirrors with
  | object members => exact ⟨rfl, rfl⟩
  | array items => exact ⟨rfl, rfl⟩

omit [RecordKeys] in
/- So there is none of any name. -/
theorem field?_eq
    (hMirrors : v.Mirrors w)
    (name : String) :
    v.field? name = none ∧ w.field? name = none := by
  cases hMirrors with
  | object members => exact ⟨rfl, rfl⟩
  | array items => exact ⟨rfl, rfl⟩

omit [RecordKeys] in
/- Both are of one kind. -/
theorem kind_eq
    (hMirrors : v.Mirrors w) :
    v.kind = w.kind := by
  cases hMirrors with
  | object members => rfl
  | array items => rfl

/- Both have as many entries. -/
theorem keyCount?_eq
    (hMirrors : v.Mirrors w) :
    v.keyCount? = w.keyCount? := by
  cases hMirrors with
  | object members =>
      simp [keyCount?, Value.isKeyed, isContainer, keyCount,
        ownCount, Entries.map]
  | array items =>
      simp [keyCount?, Value.isKeyed, isContainer, keyCount,
        ownCount]

/- Both have places for them, which mirror each other. -/
theorem entryPlace?
    (hMirrors : v.Mirrors w)
    (key : Key) :
    Option.Rel Place.Mirrors (v.entryPlace? key)
      (w.entryPlace? key) := by
  cases hMirrors with
  | object members =>
      cases key with
      | index i => exact .none
      | name name =>
          simp only [Value.entryPlace?, ownEntryPlace?,
            jsonMemberPlace?, namedPlace?, Entries.find?_map]
          cases Entries.find? name members with
          | none => exact .none
          | some old =>
              refine .some ⟨rfl, rfl, ?_⟩
              intro j
              simp only [asJson, Entries.replace_map]
              exact .object _
  | array items =>
      cases key with
      | name name => exact .none
      | index i =>
          simp only [Value.entryPlace?, ownEntryPlace?,
            jsonItemPlace?, itemPlace?, List.getElem?_map]
          cases items[i.toNat]? with
          | none => exact .none
          | some old =>
              refine .some ⟨rfl, rfl, ?_⟩
              intro j
              simp only [asJson, ← List.map_set]
              exact .array _

end Mirrors

end Entries

end Value

------------------------------------------------------------
-- Writes
------------------------------------------------------------

/- A refusal without the names of types. -/
def AssignError.untyped : AssignError → AssignError
| .indexOutOfBounds index size _ =>
    .indexOutOfBounds index size ""
| .invalidKey key _ => .invalidKey key ""
| .notKeyed _ => .notKeyed ""
| .noFields _ => .noFields ""
| .unknownField field _ => .unknownField field ""
| .mismatchedTypes _ _ => .mismatchedTypes "" ""

/-
  Two updates that leave values which mirror each other, and
  are refused alike up to the names of types.
-/
structure Update.Mirrors
    (t u : Update AssignError) : Prop where
  node : t.node.Mirrors u.node
  result :
    t.result.mapError AssignError.untyped =
      u.result.mapError AssignError.untyped

namespace Value

variable [RecordKeys]

/- A document is written under a key of both alike. -/
theorem Mirrors.setEntry
    {v w : Value}
    (hMirrors : v.Mirrors w)
    (key : Key)
    (j : Json) :
    (v.setEntry key (.json j)).Mirrors
      (w.setEntry key (.json j)) := by
  cases hMirrors with
  | object members =>
      cases key with
      | index i => exact ⟨.object members, rfl⟩
      | name name =>
          simp only [Value.setEntry, setOwnEntry, setJsonEntry,
            type, shape, Shape.nominal, if_true,
            Entries.insert_map]
          exact ⟨.object _, rfl⟩
  | array items =>
      cases key with
      | name name => exact ⟨.array items, rfl⟩
      | index i =>
          simp only [Value.setEntry, setOwnEntry, setJsonEntry,
            setItem, itemPlace?, List.getElem?_map]
          by_cases hLt : i.toNat < items.length
          · simp only [hLt, if_true, List.getElem?_eq_getElem,
              Option.map_some, overwriteSlot, overwrite, type,
              shape, Shape.nominal, Update.within,
              Update.mapError, Update.done,
              ← List.map_set]
            exact ⟨.array _, rfl⟩
          · have hNone : items[i.toNat]? = none :=
              List.getElem?_eq_none (Nat.le_of_not_lt hLt)
            simp only [hLt, if_false, hNone, Option.map_none,
              List.length_map]
            exact ⟨.array items, rfl⟩

/- What is no document is not written into one. -/
theorem setEntry_json_of_type_ne
    {x : Value}
    (hForeign : x.type ≠ .json)
    (j : Json)
    (key : Key) :
    (Value.json j).setEntry key x =
      .refuse (.json j)
        (.mismatchedTypes Shape.json.typeName x.typeName) := by
  cases x with
  | json new => exact absurd rfl hForeign
  | _ => rfl

/- Nor is it written into what mirrors one. -/
theorem Mirrors.setEntry_of_type_ne
    {v w x : Value}
    (hMirrors : v.Mirrors w)
    (hForeign : x.type ≠ .json)
    (key : Key) :
    ∃ e, w.setEntry key x = .refuse w e := by
  cases hMirrors with
  | object members =>
      cases key with
      | index i => exact ⟨_, rfl⟩
      | name name =>
          have hElem : x.type ≠ Shape.json.nominal := hForeign
          simp only [Value.setEntry, setOwnEntry, if_neg hElem]
          exact ⟨_, rfl⟩
  | array items =>
      cases key with
      | name name => exact ⟨_, rfl⟩
      | index i =>
          simp only [Value.setEntry, setOwnEntry, setItem,
            itemPlace?, List.getElem?_map]
          cases hItem : items[i.toNat]? with
          | none => exact ⟨_, rfl⟩
          | some old =>
              -- The item that is put back is the old one.
              have hSame :
                  (items.map Value.json).set i.toNat
                    (.json old) = items.map .json := by
                rw [← List.map_set, set_of_getElem? hItem]
              have hKept :
                  (Value.json old).overwrite x =
                    .refuse (.json old) x :=
                overwrite_of_type_ne hForeign
              simp only [Option.map_some, overwriteSlot, hKept,
                Update.within, Update.mapError, Update.refuse,
                hSame]
              exact ⟨_, rfl⟩

end Value

end TreePath
