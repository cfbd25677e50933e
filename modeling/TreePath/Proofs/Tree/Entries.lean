import TreePath.Tree.Entries

/-
  What an insertion does to the entries as a whole: it adds
  at most the one entry that it is about.

  Main statements:
    * `Entries.mem_of_find?`
    * `Entries.length_insert`
    * `Entries.mem_insert`
    * `Entries.insert_of_find?`
-/

------------------------------------------------------------
-- Entries
------------------------------------------------------------

namespace TreePath

namespace Entries

variable {α : Type}

/- What is found is an entry. -/
theorem mem_of_find?
    {name : String}
    {item : α}
    {entries : List (String × α)}
    (hFound : find? name entries = some item) :
    (name, item) ∈ entries := by
  induction entries with
  | nil => simp [find?] at hFound
  | cons entry entries ih =>
      rcases entry with ⟨key, old⟩
      by_cases hKey : key = name
      · simp only [find?, hKey, if_true, Option.some.injEq]
          at hFound
        rw [hKey, hFound]
        exact List.mem_cons_self
      · simp only [find?, hKey, if_false] at hFound
        exact List.mem_cons_of_mem _ (ih hFound)

/- The names under which something is found. -/
theorem isSome_find?_iff
    (name : String)
    (entries : List (String × α)) :
    (find? name entries).isSome ↔
      name ∈ entries.map Prod.fst := by
  induction entries with
  | nil => simp [find?]
  | cons entry entries ih =>
      rcases entry with ⟨key, item⟩
      by_cases hKey : key = name
      · simp [find?, hKey]
      · simp [find?, hKey, ih, Ne.symm hKey]

/- Replacing an entry keeps their number. -/
theorem length_replace
    (name : String)
    (item : α)
    (entries : List (String × α)) :
    (replace name item entries).length = entries.length := by
  induction entries with
  | nil => rfl
  | cons entry entries ih =>
      rcases entry with ⟨key, old⟩
      by_cases hKey : key = name
      · simp [replace, hKey]
      · simp [replace, hKey, ih]

/- A new entry is one more. -/
theorem length_place
    (name : String)
    (item : α)
    (entries : List (String × α)) :
    (place name item entries).length =
      entries.length + 1 := by
  induction entries with
  | nil => rfl
  | cons entry entries ih =>
      rcases entry with ⟨key, old⟩
      by_cases hLess : name < key
      · simp [place, hLess]
      · simp [place, hLess, ih]

/- An insertion adds an entry only if the name is new. -/
theorem length_insert
    (name : String)
    (item : α)
    (entries : List (String × α)) :
    (insert name item entries).length =
      entries.length +
        if (find? name entries).isSome then 0 else 1 := by
  unfold insert
  cases hFound : find? name entries with
  | some old => simp [length_replace]
  | none => simp [length_place]

/- After a replacement there are no entries but the new one
   and the old ones. -/
theorem mem_replace
    {name : String}
    {item : α}
    {entries : List (String × α)}
    {entry : String × α}
    (hMem : entry ∈ replace name item entries) :
    entry = (name, item) ∨ entry ∈ entries := by
  induction entries with
  | nil => exact Or.inr hMem
  | cons first entries ih =>
      rcases first with ⟨key, old⟩
      by_cases hKey : key = name
      · simp only [replace, hKey, if_true, List.mem_cons]
          at hMem ⊢
        grind
      · simp only [replace, hKey, if_false, List.mem_cons]
          at hMem ⊢
        grind

/- The same for a new entry. -/
theorem mem_place
    {name : String}
    {item : α}
    {entries : List (String × α)}
    {entry : String × α}
    (hMem : entry ∈ place name item entries) :
    entry = (name, item) ∨ entry ∈ entries := by
  induction entries with
  | nil => simpa [place] using hMem
  | cons first entries ih =>
      rcases first with ⟨key, old⟩
      by_cases hLess : name < key
      · simp only [place, hLess, if_true, List.mem_cons]
          at hMem ⊢
        grind
      · simp only [place, hLess, if_false, List.mem_cons]
          at hMem ⊢
        grind

/- The same for an insertion. -/
theorem mem_insert
    {name : String}
    {item : α}
    {entries : List (String × α)}
    {entry : String × α}
    (hMem : entry ∈ insert name item entries) :
    entry = (name, item) ∨ entry ∈ entries := by
  unfold insert at hMem
  split at hMem
  · exact mem_replace hMem
  · exact mem_place hMem

/- To insert a name that is present is to replace its item. -/
theorem insert_eq_replace
    {name : String}
    {old : α}
    {entries : List (String × α)}
    (hFound : find? name entries = some old)
    (item : α) :
    insert name item entries = replace name item entries := by
  unfold insert
  rw [hFound]

/- To insert an entry that is there changes nothing. -/
theorem insert_of_find?
    {name : String}
    {item : α}
    {entries : List (String × α)}
    (hFound : find? name entries = some item) :
    insert name item entries = entries := by
  rw [insert_eq_replace hFound, replace_of_find? hFound]

end Entries

end TreePath
