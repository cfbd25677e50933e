import TreePath.Tree.Value

/-
  Attributes are consistent if their three lists agree with
  one another.  No write to an object ever breaks this.

  Key definitions include:
    * `Attributes.Consistent`
    * `Value.Consistent`

  Main statements:
    * `Attributes.consistent_insert`
    * `Attributes.find?_insert_self`
    * `Attributes.find?_insert_of_ne`
-/

------------------------------------------------------------
-- Consistent Attributes
------------------------------------------------------------

namespace TreePath

namespace Attributes

variable {α : Type}

/-
  There are as many names as items, and the index leads from
  a name to the one place where the name stands.
-/
structure Consistent
    (a : Attributes α) : Prop where
  sized : a.names.length = a.items.length
  indexed :
    ∀ (name : String) (i : Nat),
      a.place? name = some i ↔ a.names[i]? = some name

/- Without attributes there is nothing to disagree on. -/
theorem consistent_empty :
    (empty : Attributes α).Consistent := by
  refine ⟨rfl, ?_⟩
  intro name i
  simp [empty, place?, Entries.find?]

namespace Consistent

variable {a : Attributes α}

/- The index leads to places that exist. -/
theorem place_lt
    (hConsistent : a.Consistent)
    {name : String}
    {i : Nat}
    (hPlace : a.place? name = some i) :
    i < a.items.length := by
  rw [hConsistent.indexed] at hPlace
  rw [← hConsistent.sized]
  exact (List.getElem?_eq_some_iff.mp hPlace).1

/- No place belongs to two names. -/
theorem place_injective
    (hConsistent : a.Consistent)
    {name other : String}
    {i : Nat}
    (hName : a.place? name = some i)
    (hOther : a.place? other = some i) :
    other = name := by
  rw [hConsistent.indexed] at hName hOther
  rw [hName] at hOther
  exact (Option.some.inj hOther).symm

/- The names are those that the index knows. -/
theorem mem_names_iff
    (hConsistent : a.Consistent)
    (name : String) :
    name ∈ a.names ↔ (a.place? name).isSome := by
  rw [List.mem_iff_getElem?, Option.isSome_iff_exists]
  constructor
  · rintro ⟨i, hName⟩
    exact ⟨i, (hConsistent.indexed name i).mpr hName⟩
  · rintro ⟨i, hPlace⟩
    exact ⟨i, (hConsistent.indexed name i).mp hPlace⟩

/- A name that the index knows has an item. -/
theorem isSome_find?_iff
    (hConsistent : a.Consistent)
    (name : String) :
    (a.find? name).isSome ↔ (a.place? name).isSome := by
  unfold find?
  cases hPlace : a.place? name with
  | none => simp
  | some i =>
      have hLt := hConsistent.place_lt hPlace
      simp [hLt]

end Consistent

------------------------------------------------------------
-- Insertion
------------------------------------------------------------

/- A known name keeps its place. -/
theorem insert_of_place?_eq_some
    {a : Attributes α}
    {name : String}
    {i : Nat}
    (hPlace : a.place? name = some i)
    (item : α) :
    a.insert name item = a.set i item := by
  unfold insert
  rw [hPlace]

/- A new name comes last. -/
theorem insert_of_place?_eq_none
    {a : Attributes α}
    {name : String}
    (hPlace : a.place? name = none)
    (item : α) :
    a.insert name item =
      { items := a.items ++ [item]
        names := a.names ++ [name]
        places :=
          Entries.insert name a.items.length a.places } := by
  unfold insert
  rw [hPlace]

/- Insertion keeps the three lists in agreement. -/
theorem consistent_insert
    {a : Attributes α}
    (hConsistent : a.Consistent)
    (name : String)
    (item : α) :
    (a.insert name item).Consistent := by
  cases hPlace : a.place? name with
  | some i =>
      rw [insert_of_place?_eq_some hPlace]
      refine ⟨?_, ?_⟩
      · simpa [set] using hConsistent.sized
      · exact hConsistent.indexed
  | none =>
      rw [insert_of_place?_eq_none hPlace]
      refine ⟨?_, ?_⟩
      · simpa using hConsistent.sized
      · intro other i
        have hSized := hConsistent.sized
        by_cases hOther : other = name
        · subst hOther
          -- The index did not know the name, so it does not
          -- stand anywhere before the end.
          have hAbsent : other ∉ a.names := by
            rw [hConsistent.mem_names_iff, hPlace]
            simp
          have hBefore (hLt : i < a.names.length) :
              a.names[i]? ≠ some other := by
            intro hFound
            exact hAbsent (List.mem_of_getElem? hFound)
          simp only [place?, Entries.find?_insert_self]
          grind
        · have hIndexed := hConsistent.indexed other i
          simp only [place?] at hIndexed ⊢
          rw [Entries.find?_insert_of_ne hOther, hIndexed]
          grind

/- What was inserted is found. -/
theorem find?_insert_self
    {a : Attributes α}
    (hConsistent : a.Consistent)
    (name : String)
    (item : α) :
    (a.insert name item).find? name = some item := by
  cases hPlace : a.place? name with
  | some i =>
      have hLt := hConsistent.place_lt hPlace
      have hSame : (a.set i item).place? name = some i :=
        hPlace
      rw [insert_of_place?_eq_some hPlace]
      unfold find?
      rw [hSame]
      simp [set, hLt]
  | none =>
      rw [insert_of_place?_eq_none hPlace]
      simp [find?, place?, Entries.find?_insert_self]

/- Inserting one name leaves all others alone. -/
theorem find?_insert_of_ne
    {a : Attributes α}
    (hConsistent : a.Consistent)
    {name other : String}
    (hNe : other ≠ name)
    (item : α) :
    (a.insert name item).find? other = a.find? other := by
  cases hPlace : a.place? name with
  | some i =>
      have hSame :
          (a.set i item).place? other = a.place? other :=
        rfl
      rw [insert_of_place?_eq_some hPlace]
      unfold find?
      rw [hSame]
      cases hOther : a.place? other with
      | none => rfl
      | some j =>
          have hApart : i ≠ j := by
            rintro rfl
            exact hNe (hConsistent.place_injective hPlace hOther)
          simp [set, List.getElem?_set_ne hApart]
  | none =>
      rw [insert_of_place?_eq_none hPlace]
      unfold find?
      simp only [place?]
      rw [Entries.find?_insert_of_ne hNe]
      cases hOther : Entries.find? other a.places with
      | none => rfl
      | some j =>
          have hLt := hConsistent.place_lt hOther
          simp [List.getElem?_append_left hLt]

/- What is found is one of the items. -/
theorem mem_items_of_find?
    {a : Attributes α}
    {name : String}
    {item : α}
    (hFound : a.find? name = some item) :
    item ∈ a.items := by
  unfold find? at hFound
  split at hFound
  · cases hFound
  · exact List.mem_of_getElem? hFound

/- Insertion brings in no item but the new one. -/
theorem mem_items_insert
    {a : Attributes α}
    {name : String}
    {item other : α}
    (hMem : other ∈ (a.insert name item).items) :
    other = item ∨ other ∈ a.items := by
  unfold insert at hMem
  split at hMem
  · exact (List.mem_or_eq_of_mem_set hMem).symm
  · simpa [or_comm] using hMem

/- A known name keeps its place among the names. -/
theorem names_insert
    {a : Attributes α}
    (hConsistent : a.Consistent)
    (name : String)
    (item : α) :
    (a.insert name item).names =
      if (a.find? name).isSome then a.names
      else a.names ++ [name] := by
  have hFound := hConsistent.isSome_find?_iff name
  cases hPlace : a.place? name with
  | some i =>
      rw [insert_of_place?_eq_some hPlace]
      simp [hFound, hPlace, set]
  | none =>
      rw [insert_of_place?_eq_none hPlace]
      simp [hFound, hPlace]

end Attributes

------------------------------------------------------------
-- Consistent Trees
------------------------------------------------------------

namespace Value

mutual

/- The attributes of all objects of a tree are consistent. -/
def Consistent : Value → Prop
| .scalar _ => True
| .option _ none => True
| .option _ (some v) => v.Consistent
| .sequence _ _ items => ItemsConsistent items
| .dictionary _ _ entries => EntriesConsistent entries
| .json _ => True
| .object ⟨items, names, places⟩ entries =>
    (Attributes.mk items names places).Consistent ∧
      ItemsConsistent items ∧ EntriesConsistent entries
| .record _ fields => ItemsConsistent fields

/- The same for all items of a list. -/
def ItemsConsistent : List Value → Prop
| [] => True
| v :: vs => v.Consistent ∧ ItemsConsistent vs

/- The same for all entries. -/
def EntriesConsistent : List (String × Value) → Prop
| [] => True
| (_, v) :: entries =>
    v.Consistent ∧ EntriesConsistent entries

end

/- Items are consistent one by one. -/
theorem itemsConsistent_iff
    (items : List Value) :
    ItemsConsistent items ↔ ∀ v ∈ items, v.Consistent := by
  induction items with
  | nil => simp [ItemsConsistent]
  | cons v items ih => simp [ItemsConsistent, ih]

/- Entries are consistent one by one. -/
theorem entriesConsistent_iff
    (entries : List (String × Value)) :
    EntriesConsistent entries ↔
      ∀ entry ∈ entries, entry.2.Consistent := by
  induction entries with
  | nil => simp [EntriesConsistent]
  | cons entry entries ih =>
      rcases entry with ⟨name, v⟩
      simp [EntriesConsistent, ih]

/- An object is consistent if all its parts are. -/
theorem consistent_object_iff
    (attributes : Attributes Value)
    (entries : List (String × Value)) :
    (Value.object attributes entries).Consistent ↔
      attributes.Consistent ∧
        (∀ v ∈ attributes.items, v.Consistent) ∧
        ∀ entry ∈ entries, entry.2.Consistent := by
  cases attributes
  rw [← itemsConsistent_iff, ← entriesConsistent_iff]
  exact Iff.rfl

end Value

end TreePath
