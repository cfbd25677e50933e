import TreePath.Proofs.Tree.Aligned
import TreePath.Proofs.Tree.Restore
import TreePath.Tree.Forwarding
import TreePath.Tree.Inspect

/-
  Objects by the writes that made them.  The attributes of an
  object stand in the order in which their names were first
  written, next to its entries, and each of them is what was
  written last under its name.

  Key definitions include:
    * `History`
    * `FieldWrite`
    * `ItemWrite`
    * `ObjectStep`
    * `Value.MadeBy`
    * `Value.Reflects`

  Main statements:
    * `ObjectWrite.foldl_perform_object`
    * `ObjectWrite.madeBy_perform`
    * `ObjectStep.madeBy_run`
    * `ObjectStep.run_reflects`
-/

------------------------------------------------------------
-- Histories
------------------------------------------------------------

namespace TreePath

/- What was written under names, oldest first. -/
abbrev History :=
  List (String × Value)

namespace History

/- What was written last under a name. -/
def last?
    (history : History)
    (name : String) : Option Value :=
  Entries.find? name history.reverse

/- The names written, each where it came up first. -/
def names
    (history : History) : List String :=
  (history.map Prod.fst).eraseDups

/- The last write is the last one under its name. -/
theorem last?_concat
    (history : History)
    (name : String)
    (x : Value)
    (other : String) :
    last? (history ++ [(name, x)]) other =
      if name = other then some x else last? history other := by
  simp [last?, Entries.find?]

/- A name that is written again stays where it was. -/
theorem names_concat
    (history : History)
    (name : String)
    (x : Value) :
    names (history ++ [(name, x)]) =
      if name ∈ names history then names history
      else names history ++ [name] := by
  simp only [names, List.map_append, List.map_cons,
    List.map_nil, List.eraseDups_append, List.mem_eraseDups]
  by_cases hKnown : name ∈ history.map Prod.fst
  · simp [List.removeAll, hKnown]
  · simp [List.removeAll, hKnown, List.eraseDups_cons]

/- Something is found under the names that were written. -/
theorem isSome_last?_iff
    (history : History)
    (name : String) :
    (last? history name).isSome ↔ name ∈ names history := by
  simp only [last?, names, List.mem_eraseDups,
    Entries.isSome_find?_iff, List.map_reverse,
    List.mem_reverse]

end History

------------------------------------------------------------
-- Writes to an Object
------------------------------------------------------------

/-
  The value after another one was offered to what stands at
  a place, if there is one.
-/
def Value.replaceAt
    (v : Value)
    (place? : Option Place)
    (x : Value) : Value :=
  match place? with
  | none => v
  | some place => ((place.node.overwrite x).within place).node

/-
  A name with the value that is now found under it, if what
  stood there could be replaced.
-/
def replaced?
    (current : String → Option Value)
    (name : String)
    (x : Value) : Option (String × Value) :=
  match current name with
  | none => none
  | some old =>
      if x.type = old.type then some (name, x) else none

/- The ways to write an attribute. -/
inductive FieldWrite where
| insert (name : String) (x : Value)
| set (name : String) (x : Value)
| replace (name : String) (x : Value)

/- The ways to write an item. -/
inductive ItemWrite where
| insert (name : String) (x : Value)
| set (key : Key) (x : Value)
| replace (key : Key) (x : Value)

/- The ways to write to one side of an object. -/
inductive ObjectWrite where
| field (write : FieldWrite)
| item (write : ItemWrite)

namespace FieldWrite

/- Carry out a write. -/
def perform
    (v : Value) : FieldWrite → Value
| .insert name x =>
    match v with
    | .object attributes entries =>
        .object (attributes.insert name x) entries
    | v => v
| .set name x => (v.setField name x).node
| .replace name x => v.replaceAt (v.fieldPlace? name) x

/-
  What a write leaves behind, if anything, next to what stands
  under the names before.
-/
def effect?
    (current : String → Option Value) :
    FieldWrite → Option (String × Value)
| .insert name x => some (name, x)
| .set name x => some (name, x)
| .replace name x => replaced? current name x

/- The attributes after a write. -/
def revise
    (attributes : Attributes Value)
    (write : FieldWrite) : Attributes Value :=
  match write.effect? attributes.find? with
  | none => attributes
  | some (name, x) => attributes.insert name x

/- A write of an attribute does not touch the entries. -/
theorem perform_object
    (write : FieldWrite)
    (attributes : Attributes Value)
    (entries : List (String × Value)) :
    write.perform (.object attributes entries) =
      .object (revise attributes write) entries := by
  cases write with
  | insert name x => rfl
  | set name x => rfl
  | replace name x =>
      simp only [perform, Value.replaceAt, Value.fieldPlace?,
        revise, effect?, replaced?, Attributes.find?]
      cases hPlace : attributes.place? name with
      | none => rfl
      | some i =>
          simp only [Value.itemPlace?]
          cases hItem : attributes.items[i]? with
          | none => rfl
          | some old =>
              by_cases hType : x.type = old.type
              · simp [Value.overwrite, hType, Update.within,
                  Update.done, Attributes.set,
                  Attributes.insert_of_place?_eq_some hPlace]
              · -- What is put back is what stood there.
                simp [Value.overwrite, hType, Update.within,
                  Update.refuse, set_of_getElem? hItem]

end FieldWrite

namespace ItemWrite

variable [RecordKeys]

/- Carry out a write. -/
def perform
    (v : Value) : ItemWrite → Value
| .insert name x =>
    match v with
    | .object attributes entries =>
        .object attributes (Entries.insert name x entries)
    | v => v
| .set key x => (v.setEntry key x).node
| .replace key x => v.replaceAt (v.entryPlace? key) x

/- What a write leaves behind; positions are no names. -/
def effect?
    (current : String → Option Value) :
    ItemWrite → Option (String × Value)
| .insert name x => some (name, x)
| .set (.name name) x => some (name, x)
| .set (.index _) _ => none
| .replace (.name name) x => replaced? current name x
| .replace (.index _) _ => none

/- The entries after a write. -/
def revise
    (entries : List (String × Value))
    (write : ItemWrite) : List (String × Value) :=
  match write.effect? (Entries.find? · entries) with
  | none => entries
  | some (name, x) => Entries.insert name x entries

/- A write of an item does not touch the attributes. -/
theorem perform_object
    (write : ItemWrite)
    (attributes : Attributes Value)
    (entries : List (String × Value)) :
    write.perform (.object attributes entries) =
      .object attributes (revise entries write) := by
  cases write with
  | insert name x => rfl
  | set key x =>
      cases key with
      | name name => rfl
      | index i => rfl
  | replace key x =>
      cases key with
      | index i => rfl
      | name name =>
          simp only [perform, Value.replaceAt,
            Value.entryPlace?, Value.ownEntryPlace?,
            Value.namedPlace?, revise, effect?, replaced?]
          cases hFound : Entries.find? name entries with
          | none => rfl
          | some old =>
              by_cases hType : x.type = old.type
              · simp [Value.overwrite, hType, Update.within,
                  Update.done, Entries.insert_eq_replace hFound]
              · simp [Value.overwrite, hType, Update.within,
                  Update.refuse,
                  Entries.replace_of_find? hFound]

end ItemWrite

namespace ObjectWrite

variable [RecordKeys]

/- Carry out a write. -/
def perform
    (v : Value) : ObjectWrite → Value
| .field write => write.perform v
| .item write => write.perform v

/- The write, if it is one of an attribute. -/
def field? : ObjectWrite → Option FieldWrite
| .field write => some write
| .item _ => none

/- The write, if it is one of an item. -/
def item? : ObjectWrite → Option ItemWrite
| .field _ => none
| .item write => some write

/-
  Writes to both sides of an object come to those of each
  side by themselves, in whatever order the sides take turns.
-/
theorem foldl_perform_object
    (writes : List ObjectWrite)
    (attributes : Attributes Value)
    (entries : List (String × Value)) :
    writes.foldl perform (.object attributes entries) =
      .object
        ((writes.filterMap field?).foldl
          FieldWrite.revise attributes)
        ((writes.filterMap item?).foldl
          ItemWrite.revise entries) := by
  induction writes generalizing attributes entries with
  | nil => rfl
  | cons write writes ih =>
      cases write with
      | field write =>
          simp only [List.foldl_cons, perform,
            FieldWrite.perform_object, ih, field?,
            item?, List.filterMap_cons]
      | item write =>
          simp only [List.foldl_cons, perform,
            ItemWrite.perform_object, ih, field?,
            item?, List.filterMap_cons]

end ObjectWrite

------------------------------------------------------------
-- What Writes Make
------------------------------------------------------------

/- What was written to either side of an object. -/
structure ObjectHistory where
  fields : History
  items : History

namespace ObjectHistory

/- Nothing was written. -/
def empty : ObjectHistory :=
  ⟨[], []⟩

/- A write is remembered by what it leaves behind. -/
def record
    (h : ObjectHistory) : ObjectWrite → ObjectHistory
| .field write =>
    { h with
      fields :=
        h.fields ++ (write.effect? h.fields.last?).toList }
| .item write =>
    { h with
      items := h.items ++ (write.effect? h.items.last?).toList }

end ObjectHistory

/-
  The attributes that a history makes: one for each name, in
  the order of the names, with what was written last.
-/
structure Attributes.MadeBy
    (attributes : Attributes Value)
    (history : History) : Prop where
  aligned : attributes.Aligned
  ordered : attributes.names = history.names
  found : attributes.find? = history.last?

/- The entries that a history makes. -/
def Entries.MadeBy
    (entries : List (String × Value))
    (history : History) : Prop :=
  (Entries.find? · entries) = history.last?

/- No attributes come from no writes. -/
theorem Attributes.madeBy_empty :
    (empty : Attributes Value).MadeBy [] where
  aligned := aligned_empty
  ordered := rfl
  found := rfl

/- One more attribute. -/
theorem Attributes.MadeBy.insert
    {attributes : Attributes Value}
    {history : History}
    (hMade : attributes.MadeBy history)
    (name : String)
    (x : Value) :
    (attributes.insert name x).MadeBy
      (history ++ [(name, x)]) where
  aligned := aligned_insert hMade.aligned name x
  ordered := by
    rw [names_insert hMade.aligned.toConsistent,
      History.names_concat, hMade.found, hMade.ordered]
    simp only [History.isSome_last?_iff]
  found := by
    have hConsistent := hMade.aligned.toConsistent
    funext other
    rw [History.last?_concat, ← hMade.found]
    by_cases hSame : name = other
    · subst hSame
      rw [if_pos rfl, find?_insert_self hConsistent]
    · rw [if_neg hSame,
        find?_insert_of_ne hConsistent (Ne.symm hSame)]

/- One more entry. -/
theorem Entries.MadeBy.insert
    {entries : List (String × Value)}
    {history : History}
    (hMade : MadeBy entries history)
    (name : String)
    (x : Value) :
    MadeBy (Entries.insert name x entries)
      (history ++ [(name, x)]) := by
  funext other
  rw [History.last?_concat, ← hMade]
  by_cases hSame : name = other
  · subst hSame
    rw [if_pos rfl, find?_insert_self]
  · rw [if_neg hSame, find?_insert_of_ne (Ne.symm hSame)]

/- The attributes after one more write. -/
theorem FieldWrite.madeBy_revise
    {attributes : Attributes Value}
    {history : History}
    (hMade : attributes.MadeBy history)
    (write : FieldWrite) :
    (revise attributes write).MadeBy
      (history ++ (write.effect? history.last?).toList) := by
  rw [revise, hMade.found]
  cases write.effect? history.last? with
  | none => simpa using hMade
  | some new => exact hMade.insert new.1 new.2

/- The entries after one more write. -/
theorem ItemWrite.madeBy_revise
    {entries : List (String × Value)}
    {history : History}
    (hMade : Entries.MadeBy entries history)
    (write : ItemWrite) :
    Entries.MadeBy (revise entries write)
      (history ++ (write.effect? history.last?).toList) := by
  have hFound : (Entries.find? · entries) = _ := hMade
  rw [revise, hFound]
  cases write.effect? history.last? with
  | none => simpa using hMade
  | some new => exact hMade.insert new.1 new.2

namespace Value

/- An object that writes to both its sides make. -/
def MadeBy
    (v : Value)
    (h : ObjectHistory) : Prop :=
  ∃ attributes entries,
    v = .object attributes entries ∧
      attributes.MadeBy h.fields ∧
        Entries.MadeBy entries h.items

/- An object without attributes and entries. -/
def newObject : Value :=
  .object .empty []

/- A new object comes from no writes. -/
theorem madeBy_newObject : newObject.MadeBy .empty :=
  ⟨.empty, [], rfl, Attributes.madeBy_empty, rfl⟩

/- What comes from writes is an object. -/
theorem MadeBy.type
    {v : Value}
    {h : ObjectHistory}
    (hMade : v.MadeBy h) :
    v.type = .object := by
  rcases hMade with ⟨attributes, entries, rfl, _⟩
  rfl

end Value

/- A write adds to what makes an object. -/
theorem ObjectWrite.madeBy_perform
    [RecordKeys]
    {v : Value}
    {h : ObjectHistory}
    (hMade : v.MadeBy h)
    (write : ObjectWrite) :
    (perform v write).MadeBy (h.record write) := by
  rcases hMade with
    ⟨attributes, entries, rfl, hAttributes, hEntries⟩
  cases write with
  | field write =>
      exact
        ⟨_, entries, write.perform_object attributes entries,
          write.madeBy_revise hAttributes, hEntries⟩
  | item write =>
      exact
        ⟨attributes, _, write.perform_object attributes entries,
          hAttributes, write.madeBy_revise hEntries⟩

------------------------------------------------------------
-- Lives of Objects
------------------------------------------------------------

/-
  A step in the life of an object: a write to one of its
  sides, another object put in its stead, which has a life of
  its own, or a value of another type offered in its stead.
-/
inductive ObjectStep where
| edit (write : ObjectWrite)
| assign (steps : List ObjectStep)
| offer
    (x : Value)
    (hOther : x.type ≠ .object)

namespace ObjectStep

section Runs

variable [RecordKeys]

mutual

/- Carry out a step. -/
def perform
    (v : Value) : ObjectStep → Value
| .edit write => write.perform v
| .assign steps => (v.overwrite (run .newObject steps)).node
| .offer x _ => (v.overwrite x).node

/- Carry out steps, one after the other. -/
def run
    (v : Value) : List ObjectStep → Value
| [] => v
| step :: steps => run (perform v step) steps

end

mutual

/- What is remembered after a step. -/
def record
    (h : ObjectHistory) : ObjectStep → ObjectHistory
| .edit write => h.record write
| .assign steps => recordAll .empty steps
| .offer _ _ => h

/- What is remembered after all steps. -/
def recordAll
    (h : ObjectHistory) : List ObjectStep → ObjectHistory
| [] => h
| step :: steps => recordAll (record h step) steps

end

mutual

/- A step keeps to what is remembered. -/
theorem madeBy_perform
    {v : Value}
    {h : ObjectHistory}
    (hMade : v.MadeBy h) :
    (step : ObjectStep) →
      (perform v step).MadeBy (record h step)
| .edit write => write.madeBy_perform hMade
| .assign steps => by
    have hNew := madeBy_run Value.madeBy_newObject steps
    have hType := hNew.type.trans hMade.type.symm
    -- The history starts over with that of the new object.
    rw [perform, Value.overwrite, if_pos hType]
    exact hNew
| .offer x hOther => by
    have hType : x.type ≠ v.type := by
      rw [hMade.type]
      exact hOther
    rw [perform, Value.overwrite, if_neg hType]
    exact hMade

/- So do all steps of a run. -/
theorem madeBy_run
    {v : Value}
    {h : ObjectHistory}
    (hMade : v.MadeBy h) :
    (steps : List ObjectStep) →
      (run v steps).MadeBy (recordAll h steps)
| [] => hMade
| step :: steps =>
    madeBy_run (madeBy_perform hMade step) steps

end

/- Steps that are all writes. -/
theorem run_map_edit
    (v : Value)
    (writes : List ObjectWrite) :
    run v (writes.map edit) =
      writes.foldl ObjectWrite.perform v := by
  induction writes generalizing v with
  | nil => rfl
  | cons write writes ih => exact ih _

end Runs

end ObjectStep

------------------------------------------------------------
-- Reading an Object
------------------------------------------------------------

/-
  What an object tells about the writes that made it.  Its
  lists are aligned, so that no place is looked up in vain.
  Its fields stand in the order of first writing, each with
  what was written last; its items have what was written last
  under their names, and there are none at positions.
-/
structure Value.Reflects
    [RecordKeys]
    (v : Value)
    (h : ObjectHistory) : Prop where
  aligned :
    ∃ attributes entries,
      v = .object attributes entries ∧ attributes.Aligned
  ordered : v.fieldNames? = some h.fields.names
  known :
    ∀ name, (v.field? name).isSome ↔ name ∈ h.fields.names
  field : ∀ name, v.field? name = h.fields.last? name
  item : ∀ name, v.entry? (.name name) = h.items.last? name
  position : ∀ i, v.entry? (.index i) = none

/- An object tells what made it. -/
theorem Value.MadeBy.reflects
    [RecordKeys]
    {v : Value}
    {h : ObjectHistory}
    (hMade : v.MadeBy h) :
    v.Reflects h := by
  rcases hMade with
    ⟨attributes, entries, rfl, hAttributes, hEntries⟩
  constructor
  case aligned =>
    exact ⟨attributes, entries, rfl, hAttributes.aligned⟩
  case ordered => exact congrArg some hAttributes.ordered
  case known =>
    intro name
    rw [← History.isSome_last?_iff, ← hAttributes.found]
    exact Iff.rfl
  case field => exact congrFun hAttributes.found
  case item => exact congrFun hEntries
  case position =>
    intro i
    rfl

namespace ObjectStep

/-
  An object tells what made it at any time of its life, and
  which side was written to first when does not matter.
-/
theorem run_reflects
    [RecordKeys] :
    (∀ steps,
        (run .newObject steps).Reflects
          (recordAll .empty steps)) ∧
      ∀ (writes writes' : List ObjectWrite)
        (attributes : Attributes Value)
        (entries : List (String × Value)),
        writes.filterMap ObjectWrite.field? =
            writes'.filterMap ObjectWrite.field? →
          writes.filterMap ObjectWrite.item? =
              writes'.filterMap ObjectWrite.item? →
            run (.object attributes entries)
                (writes.map edit) =
              run (.object attributes entries)
                (writes'.map edit) := by
  refine ⟨?_, ?_⟩
  · intro steps
    exact (madeBy_run Value.madeBy_newObject steps).reflects
  · intro writes writes' attributes entries hFields hItems
    simp only [run_map_edit, ObjectWrite.foldl_perform_object,
      hFields, hItems]

/-
  Two orders of the same writes to both sides, once for a new
  object, and once behind an object that is put in its stead.
  A value of another type replaces nothing, and a position is
  no name of an item.
-/
theorem run_reflects_turns :
    let number (n : Int) : Value :=
      .scalar (.integer ⟨true, .w32⟩ n)
    let truth : Value := .scalar (.bool true)
    let fields : List ObjectWrite :=
      [.field (.insert "a" (number 1)),
        .field (.set "b" truth),
        .field (.replace "a" truth),
        .field (.replace "a" (number 2))]
    let items : List ObjectWrite :=
      [.item (.insert "a" (number 3)),
        .item (.set (.index 0) truth),
        .item (.replace (.name "a") (number 4))]
    let turns := items.take 1 ++ fields ++ items.drop 1
    let v := run .newObject ((fields ++ items).map edit)
    let old := [edit (.field (.insert "c" truth))]
    let life :=
      old ++
        [.assign (turns.map edit),
          .offer truth
            (by simp [truth, Value.type, Value.shape,
              Shape.nominal])]
    v.fieldNames? = some ["a", "b"] ∧
      v.field? "a" = some (number 2) ∧
        v.field? "c" = none ∧
          v.entry? (.name "a") = some (number 4) ∧
            v = run .newObject (turns.map edit) ∧
              (run .newObject life).fieldNames? =
                some ["a", "b"] := by
  intro number truth fields items turns v old life
  have hTold := run_reflects.1 ((fields ++ items).map edit)
  have hTurns :=
    run_reflects.2 (fields ++ items) turns .empty [] rfl rfl
  exact
    ⟨hTold.ordered, hTold.field "a", hTold.field "c",
      hTold.item "a", hTurns, (run_reflects.1 life).ordered⟩

end ObjectStep

end TreePath
