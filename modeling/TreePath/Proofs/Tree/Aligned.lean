import TreePath.Proofs.Tree.Consistent
import TreePath.Proofs.Tree.Entries

/-
  The three lists of attributes, place by place.  They are of
  one length, no name stands twice, and the index holds one
  place for each name: its own.

  Key definitions include:
    * `Attributes.Aligned`

  Main statements:
    * `Attributes.aligned_empty`
    * `Attributes.aligned_insert`
-/

------------------------------------------------------------
-- Aligned Attributes
------------------------------------------------------------

namespace TreePath

namespace Attributes

variable {α : Type}

/- No name of consistent attributes stands twice. -/
theorem Consistent.nodup_names
    {a : Attributes α}
    (hConsistent : a.Consistent) :
    a.names.Nodup := by
  rw [List.nodup_iff_pairwise_ne, List.pairwise_iff_getElem]
  intro i j hi hj hLess hSame
  have hFirst := (hConsistent.indexed a.names[i] i).mpr
    (List.getElem?_eq_getElem hi)
  have hSecond := (hConsistent.indexed a.names[i] j).mpr
    (by rw [hSame]; exact List.getElem?_eq_getElem hj)
  rw [hFirst] at hSecond
  exact absurd (Option.some.inj hSecond) (Nat.ne_of_lt hLess)

/-
  The lists are of one length, no name stands twice, and each
  entry of the index leads to a place among the items, the one
  where its own name stands.
-/
structure Aligned
    (a : Attributes α) : Prop extends a.Consistent where
  counted : a.places.length = a.names.length
  distinct : a.names.Nodup
  inRange : ∀ entry ∈ a.places, entry.2 < a.items.length
  owned :
    ∀ entry ∈ a.places, a.names[entry.2]? = some entry.1

/- Empty lists are aligned. -/
theorem aligned_empty :
    (empty : Attributes α).Aligned where
  toConsistent := consistent_empty
  counted := rfl
  distinct := List.nodup_nil
  inRange := by simp [empty]
  owned := by simp [empty]

/- Insertion keeps the lists aligned. -/
theorem aligned_insert
    {a : Attributes α}
    (hAligned : a.Aligned)
    (name : String)
    (item : α) :
    (a.insert name item).Aligned := by
  have hConsistent :=
    consistent_insert hAligned.toConsistent name item
  have hDistinct := hConsistent.nodup_names
  cases hPlace : a.place? name with
  | some i =>
      -- The names and the index stay, and an item is replaced.
      rw [insert_of_place?_eq_some hPlace]
        at hConsistent hDistinct ⊢
      refine
        ⟨hConsistent, hAligned.counted, hDistinct, ?_,
          hAligned.owned⟩
      intro entry hMem
      simp only [set, List.length_set]
      exact hAligned.inRange entry hMem
  | none =>
      rw [insert_of_place?_eq_none hPlace]
        at hConsistent hDistinct ⊢
      have hSized := hAligned.sized
      have hAbsent : Entries.find? name a.places = none := hPlace
      refine ⟨hConsistent, ?_, hDistinct, ?_, ?_⟩
      · simp [Entries.length_insert, hAbsent, hAligned.counted]
      · intro entry hMem
        rw [List.length_append, List.length_singleton]
        rcases Entries.mem_insert hMem with rfl | hOld
        · exact Nat.lt_succ_self _
        · exact Nat.lt_succ_of_lt (hAligned.inRange entry hOld)
      · intro entry hMem
        rcases Entries.mem_insert hMem with rfl | hOld
        · simp [← hSized]
        · have hLess := hAligned.inRange entry hOld
          rw [← hSized] at hLess
          rw [List.getElem?_append_left hLess]
          exact hAligned.owned entry hOld

end Attributes

end TreePath
