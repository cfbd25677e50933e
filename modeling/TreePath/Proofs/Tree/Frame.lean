import TreePath.Proofs.Tree.Location
import TreePath.Proofs.Tree.Stored

/-
  What a write at one location changes and what it leaves
  alone, said of all locations of the tree at once.

  Key definitions include:
    * `Value.ChangedAt`

  Main statements:
    * `Value.WrittenAt.changedAt`
-/

------------------------------------------------------------
-- Changes at One Location
------------------------------------------------------------

namespace TreePath

variable [RecordKeys]

namespace Value

/-
  A root has changed at a target only.  Away from the target
  and what lies below it, the same locations exist, and those
  that are not on the way to it hold the same values.  The
  values on the way keep their types and the order of their
  fields; at most the one that holds the target has a new
  field, as its last.  That one has either the same children
  as before or, being one that grows, one more; its length
  stays if the target is a position.  Where the way goes
  through a field, the data beside the field stays as well,
  whether a selector leads to it or not.
-/
structure ChangedAt
    (root : Value)
    (target : List Selector)
    (x root' : Value) : Prop where
  written : root'.at? target = some x
  existence :
    ∀ location, ¬ target <+: location →
      (root'.at? location).isSome = (root.at? location).isSome
  untouched :
    ∀ location, ¬ target <+: location →
      ¬ location <+: target →
        root'.at? location = root.at? location
  around :
    ∀ location v, root.at? location = some v →
      location <+: target → location ≠ target →
        ∃ v', root'.at? location = some v' ∧
          v'.shape = v.shape ∧
            (v'.fieldNames? = v.fieldNames? ∨
              ∃ selector,
                target = location ++ [selector] ∧
                  v.child? selector = none ∧
                    v'.fieldNames? =
                      v.fieldNames?.map
                        (· ++ selector.newNames))
  holder :
    ∃ front last v v',
      target = front ++ [last] ∧
        root.at? front = some v ∧
          root'.at? front = some v' ∧
            v.Stored last x v' ∧
              ∀ i, last = .entry (.index i) →
                v'.ownCount = v.ownCount
  hidden :
    ∀ front name back v, target = front ++ .field name :: back →
      root.at? front = some v →
        ∃ v', root'.at? front = some v' ∧
          ∀ slot, slot ≠ v.shape.fieldSlot name →
            v'.slot? slot = v.slot? slot

------------------------------------------------------------
-- Values around a Write
------------------------------------------------------------

namespace WrittenAt

variable {v x after : Value} {selector : Selector}
variable {location : List Selector}

/- The names of the fields of a value around a write. -/
theorem fieldNames?_or
    (hWritten : x.WrittenAt v (selector :: location) after)
    (hConsistent : v.Consistent) :
    after.fieldNames? = v.fieldNames? ∨
      location = [] ∧
        v.child? selector = none ∧
          after.fieldNames? =
            v.fieldNames?.map (· ++ selector.newNames) := by
  rcases hWritten.exists_writes with ⟨y, hWrites, hMore⟩
  cases hOld : v.child? selector with
  | some old =>
      exact .inl (hWrites.kept hConsistent (by simp [hOld])).1
  | none =>
      rw [hOld] at hMore
      have hLast : location = [] := by simpa using hMore
      have hGrown := hWrites.grown hConsistent hOld
      exact .inr ⟨hLast, rfl, hGrown.2.1⟩

/- A write through a field leaves the data beside it alone. -/
theorem slot?_beside_field
    {name : String}
    {slot : Slot}
    (hWritten : x.WrittenAt v (.field name :: location) after)
    (hConsistent : v.Consistent)
    (hNe : slot ≠ v.shape.fieldSlot name) :
    after.slot? slot = v.slot? slot := by
  rcases hWritten.exists_writes with ⟨y, hWrites, _⟩
  rcases hWrites.stored rfl with ⟨_, _, rfl⟩
  exact slot?_store_of_ne hConsistent hNe y

end WrittenAt

variable [SoundKeys]

/- What is at a location of a valid tree is valid. -/
theorem Valid.at?
    {v w : Value}
    {location : List Selector}
    (hValid : v.Valid)
    (hAt : v.at? location = some w) :
    w.Valid := by
  induction location generalizing v with
  | nil =>
      rcases Option.some.inj hAt with rfl
      exact hValid
  | cons selector location ih =>
      rw [at?_cons, Option.bind_eq_some_iff] at hAt
      rcases hAt with ⟨child, hChild, hRest⟩
      exact ih (hValid.child hChild) hRest

/- A write at a location changes nothing else. -/
theorem WrittenAt.changedAt
    [SeparateKeys]
    {root x root' : Value}
    {target : List Selector}
    (hWritten : x.WrittenAt root target root')
    (hValid : root.Valid) :
    root.ChangedAt target x root' := by
  constructor
  case written => exact hWritten.at?_self hValid
  case existence =>
    intro location hBelow
    exact hWritten.isSome_at? hValid hBelow
  case untouched =>
    intro location hBelow hAbove
    exact hWritten.at?_beside hValid hBelow hAbove
  case around =>
    rintro location v hAt ⟨back, rfl⟩ hNe
    cases back with
    | nil => simp at hNe
    | cons selector back =>
        have hBack : selector :: back ≠ [] :=
          List.cons_ne_nil _ _
        rcases hWritten.at?_above hValid hBack hAt with
          ⟨v', hAfter, hInner⟩
        refine ⟨v', hAfter, hInner.shape_eq, ?_⟩
        have hConsistent := (hValid.at? hAt).consistent
        rcases hInner.fieldNames?_or hConsistent with
          hKept | ⟨rfl, hNew, hGrown⟩
        · exact .inl hKept
        · exact .inr ⟨selector, rfl, hNew, hGrown⟩
  case holder =>
    rcases hWritten.exists_holder with
      ⟨front, last, v, rfl, hHolder⟩
    have hBack : [last] ≠ [] := List.cons_ne_nil _ _
    rcases hWritten.at?_above hValid hBack hHolder with
      ⟨v', hAfter, hInner⟩
    rw [singleton_iff] at hInner
    have hStored := hInner.stored_child (hValid.at? hHolder)
    refine
      ⟨front, last, v, v', rfl, hHolder, hAfter, hStored, ?_⟩
    rintro i rfl
    exact hStored.ownCount_of_index
  case hidden =>
    rintro front name back v rfl hAt
    have hBack : .field name :: back ≠ [] :=
      List.cons_ne_nil _ _
    rcases hWritten.at?_above hValid hBack hAt with
      ⟨v', hAfter, hInner⟩
    refine ⟨v', hAfter, ?_⟩
    intro slot hNe
    exact
      hInner.slot?_beside_field (hValid.at? hAt).consistent hNe

end Value

end TreePath
