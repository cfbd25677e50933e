/-
  This file defines entries, the contents of a dictionary: a
  list of named items, kept in the order of the names.

  Key definitions include:
    * `Entries.find?`
    * `Entries.replace`
    * `Entries.place`
    * `Entries.insert`
    * `Entries.ofList`
-/

namespace TreePath

namespace Entries

variable {α : Type}

------------------------------------------------------------
-- Lookup
------------------------------------------------------------

/- The item of a name. -/
def find?
    (name : String) : List (String × α) → Option α
| [] => none
| (key, item) :: entries =>
    if key = name then some item else find? name entries

/- The names, in order. -/
def names
    (entries : List (String × α)) : List String :=
  entries.map Prod.fst

------------------------------------------------------------
-- Update
------------------------------------------------------------

/- Give a name that is present another item. -/
def replace
    (name : String)
    (item : α) : List (String × α) → List (String × α)
| [] => []
| (key, old) :: entries =>
    if key = name then
      (key, item) :: entries
    else
      (key, old) :: replace name item entries

/- Put a new name in front of the first greater one. -/
def place
    (name : String)
    (item : α) : List (String × α) → List (String × α)
| [] => [(name, item)]
| (key, old) :: entries =>
    if name < key then
      (name, item) :: (key, old) :: entries
    else
      (key, old) :: place name item entries

/- Give a name an item, whether it is present or not. -/
def insert
    (name : String)
    (item : α)
    (entries : List (String × α)) : List (String × α) :=
  match find? name entries with
  | some _ => replace name item entries
  | none => place name item entries

/- The entries of a list of pairs; later pairs win. -/
def ofList
    (pairs : List (String × α)) : List (String × α) :=
  pairs.foldl (fun entries p => insert p.1 p.2 entries) []

------------------------------------------------------------
-- Lookup after Update
------------------------------------------------------------

/- What was replaced is found. -/
theorem find?_replace_self
    {name : String}
    {old : α}
    (item : α)
    {entries : List (String × α)}
    (h : find? name entries = some old) :
    find? name (replace name item entries) = some item := by
  induction entries with
  | nil => simp [find?] at h
  | cons entry entries ih =>
      obtain ⟨key, value⟩ := entry
      by_cases hk : key = name
      · simp [replace, find?, hk]
      · simp only [find?, hk, if_false] at h
        simp [replace, find?, hk, ih h]

/- Replacing one entry leaves all others alone. -/
theorem find?_replace_of_ne
    {name other : String}
    (hne : other ≠ name)
    (item : α)
    (entries : List (String × α)) :
    find? other (replace name item entries) =
      find? other entries := by
  induction entries with
  | nil => rfl
  | cons entry entries ih =>
      obtain ⟨key, value⟩ := entry
      by_cases hk : key = name
      · subst hk
        simp [replace, find?, Ne.symm hne]
      · simp [replace, find?, hk, ih]

/- What was put in its place is found. -/
theorem find?_place_self
    {name : String}
    (item : α)
    {entries : List (String × α)}
    (h : find? name entries = none) :
    find? name (place name item entries) = some item := by
  induction entries with
  | nil => simp [place, find?]
  | cons entry entries ih =>
      obtain ⟨key, value⟩ := entry
      by_cases hk : key = name
      · simp [find?, hk] at h
      · simp only [find?, hk, if_false] at h
        by_cases hlt : name < key
        · simp [place, find?, hlt]
        · simp [place, find?, hlt, hk, ih h]

/- A new entry leaves all others alone. -/
theorem find?_place_of_ne
    {name other : String}
    (hne : other ≠ name)
    (item : α)
    (entries : List (String × α)) :
    find? other (place name item entries) =
      find? other entries := by
  induction entries with
  | nil => simp [place, find?, Ne.symm hne]
  | cons entry entries ih =>
      obtain ⟨key, value⟩ := entry
      by_cases hlt : name < key
      · simp [place, find?, hlt, Ne.symm hne]
      · simp [place, find?, hlt, ih]

/- What was inserted is found. -/
theorem find?_insert_self
    (name : String)
    (item : α)
    (entries : List (String × α)) :
    find? name (insert name item entries) = some item := by
  unfold insert
  split
  · rename_i h
    exact find?_replace_self item h
  · rename_i h
    exact find?_place_self item h

/- Inserting one name leaves all others alone. -/
theorem find?_insert_of_ne
    {name other : String}
    (hne : other ≠ name)
    (item : α)
    (entries : List (String × α)) :
    find? other (insert name item entries) =
      find? other entries := by
  unfold insert
  split
  · exact find?_replace_of_ne hne item entries
  · exact find?_place_of_ne hne item entries

------------------------------------------------------------
-- Update by What Is There
------------------------------------------------------------

/- To replace an item by itself changes nothing. -/
theorem replace_of_find?
    {name : String}
    {item : α}
    {entries : List (String × α)}
    (h : find? name entries = some item) :
    replace name item entries = entries := by
  induction entries with
  | nil => rfl
  | cons entry entries ih =>
      obtain ⟨key, old⟩ := entry
      by_cases hk : key = name
      · simp only [find?, hk, if_true, Option.some.injEq]
          at h
        simp [replace, hk, h]
      · simp only [find?, hk, if_false] at h
        simp [replace, hk, ih h]

end Entries

end TreePath
