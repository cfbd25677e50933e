import TreePath.Proofs.Tree.Typing
import TreePath.Tree.Keyed

/-
  What is asked of the code that answers keys for records.
  Nothing but what the types of the fields ensure is taken
  for granted; all further laws are assumed by name where a
  result depends on them.

  Key definitions include:
    * `KeyCode.Keeps`
    * `KeyCode.ReadsBack`
    * `KeyCode.Overwrites`
    * `KeyCode.Separates`
    * `KeyCode.Rewrites`
    * `KeyCode.SwapsKeys`
    * `KeyCode.SwapsField`
    * `KeyCode.Lawful`
    * `SoundKeys`
    * `ReadBackKeys`
    * `OverwritingKeys`
    * `SeparateKeys`
    * `RewritingKeys`
    * `LawfulKeys`

  Main statements:
    * `Value.keyCases`
-/

------------------------------------------------------------
-- Laws of One Record Type
------------------------------------------------------------

namespace TreePath

namespace KeyCode

variable (code : KeyCode) (d : Declaration Shape)

/-
  What holds of a record holds of the entries that its code
  finds, and it goes on to hold of the record after values of
  which it holds were put or written.
-/
structure Keeps (p : Value → Prop) : Prop where
  find :
    ∀ {fields key v},
      p (.record d fields) →
        code.find? fields key = some v → p v
  put :
    ∀ {fields key place x},
      p (.record d fields) →
        code.place? fields key = some place →
          p x → x.type = place.node.type →
            p (.record d (place.put x))
  set :
    ∀ {fields key x after},
      p (.record d fields) → p x →
        code.set fields key x = .ok after →
          p (.record d after)

/- What was put or written at a key is found there. -/
structure ReadsBack : Prop where
  find_put :
    ∀ {fields key place x},
      code.place? fields key = some place →
        x.type = place.node.type →
          code.find? (place.put x) key = some x
  find_set :
    ∀ {fields key x after},
      code.set fields key x = .ok after →
        code.find? after key = some x

/-
  To write a value over an entry of its type is to put it in
  the place of the entry.
-/
structure Overwrites : Prop where
  set_place :
    ∀ {fields key place x},
      (Value.record d fields).WellTyped →
        code.place? fields key = some place →
          x.type = place.node.type →
            code.set fields key x = .ok (place.put x)

/- A write at one key leaves the entry at another alone. -/
def KeepsKey (key other : Key) : Prop :=
  ∀ {fields x after},
    (Value.record d fields).WellTyped →
      code.set fields key x = .ok after →
        code.find? after other = code.find? fields other

/- A write at a key leaves a field alone, and one of the field
   the entry. -/
structure KeepsField (key : Key) (i : Nat) : Prop where
  field_set :
    ∀ {fields x after},
      (Value.record d fields).WellTyped →
        code.set fields key x = .ok after →
          after[i]? = fields[i]?
  find_field :
    ∀ {fields old x},
      (Value.record d fields).WellTyped →
        fields[i]? = some old → x.type = old.type →
          code.find? (fields.set i x) key =
            code.find? fields key

/-
  Entries are told apart by their keys, and from the visible
  fields: a write to one of them leaves all others alone.
-/
structure Separates : Prop
    extends code.ReadsBack, code.Overwrites d where
  keys :
    ∀ {key other}, other ≠ key → code.KeepsKey d key other
  fields :
    ∀ {name i} key, d.visible? name = some i →
      code.KeepsField d key i

/- The later of two writes at a key wins. -/
structure Rewrites : Prop
    extends code.ReadsBack, code.Overwrites d where
  set_set :
    ∀ {fields key x y after last},
      (Value.record d fields).WellTyped → x.WellTyped →
        code.set fields key x = .ok after →
          code.set fields key y = .ok last →
            code.set after key y = .ok last

/- Two entries that are there may be written in either
   order. -/
structure SwapsKeys (key other : Key) : Prop where
  keeps : code.KeepsKey d key other
  keeps_symm : code.KeepsKey d other key
  set_comm :
    ∀ {fields x y after beside},
      (Value.record d fields).WellTyped →
        x.WellTyped → y.WellTyped →
          (code.find? fields key).isSome →
            (code.find? fields other).isSome →
              code.set fields key x = .ok after →
                code.set fields other y = .ok beside →
                  ∃ last,
                    code.set after other y = .ok last ∧
                      code.set beside key x = .ok last

/- The order of the keys does not matter. -/
theorem SwapsKeys.symm
    {code : KeyCode}
    {d : Declaration Shape}
    {key other : Key}
    (hSwaps : code.SwapsKeys d key other) :
    code.SwapsKeys d other key where
  keeps := hSwaps.keeps_symm
  keeps_symm := hSwaps.keeps
  set_comm := by
    intro fields x y after beside hTyped hNew hAlso hOld hOlder
      hSet hSetNext
    rcases hSwaps.set_comm hTyped hAlso hNew hOlder hOld hSetNext
        hSet with
      ⟨last, hBeside, hAfter⟩
    exact ⟨last, hAfter, hBeside⟩

/- So may an entry and a field. -/
structure SwapsField (key : Key) (i : Nat) : Prop
    extends code.KeepsField d key i where
  set_field :
    ∀ {fields old x y after},
      (Value.record d fields).WellTyped →
        fields[i]? = some old → y.type = old.type →
          code.set fields key x = .ok after →
            code.set (fields.set i y) key x =
              .ok (after.set i y)

/-
  The later of two writes at a key wins, and a write at a key
  may be swapped with one at another key or to a visible
  field.
-/
structure Lawful : Prop extends code.Rewrites d where
  keys :
    ∀ {key other}, other ≠ key → code.SwapsKeys d key other
  fields :
    ∀ {name i} key, d.visible? name = some i →
      code.SwapsField d key i

/- Entries that may be swapped are told apart. -/
theorem Lawful.separates
    {code : KeyCode}
    {d : Declaration Shape}
    (hLawful : code.Lawful d) :
    code.Separates d where
  toReadsBack := hLawful.toReadsBack
  toOverwrites := hLawful.toOverwrites
  keys hNe := (hLawful.keys hNe).keeps
  fields key hVisible :=
    (hLawful.fields key hVisible).toKeepsField

end KeyCode

------------------------------------------------------------
-- Laws of All Record Types
------------------------------------------------------------

section Laws

variable [RecordKeys]

/- A law that the code of every record type obeys. -/
def RecordKeys.All
    (law : KeyCode → Declaration Shape → Prop) : Prop :=
  ∀ {d code}, RecordKeys.code? d = some code → law code d

/-
  Code is subject to the types of the fields that it works on:
  well-typed and consistent records stay so.
-/
class SoundKeys : Prop where
  wellTyped :
    RecordKeys.All (·.Keeps · Value.WellTyped)
  consistent :
    RecordKeys.All (·.Keeps · Value.Consistent)

/- All code reads back what it has written. -/
class ReadBackKeys : Prop where
  readsBack : RecordKeys.All (fun code _ => code.ReadsBack)

/- All code writes over entries in place. -/
class OverwritingKeys : Prop where
  overwrites : RecordKeys.All KeyCode.Overwrites

/- All code keeps entries apart from one another. -/
class SeparateKeys : Prop where
  separates : RecordKeys.All KeyCode.Separates

/- At each key of all code the later write wins. -/
class RewritingKeys : Prop where
  rewrites : RecordKeys.All KeyCode.Rewrites

/- All code obeys the laws of writes at one level. -/
class LawfulKeys : Prop where
  lawful : RecordKeys.All KeyCode.Lawful

instance [LawfulKeys] : SeparateKeys :=
  ⟨fun hCode => (LawfulKeys.lawful hCode).separates⟩

instance [LawfulKeys] : RewritingKeys :=
  ⟨fun hCode => (LawfulKeys.lawful hCode).toRewrites⟩

instance [SeparateKeys] : ReadBackKeys :=
  ⟨fun hCode =>
    (SeparateKeys.separates hCode).toReadsBack⟩

instance [SeparateKeys] : OverwritingKeys :=
  ⟨fun hCode =>
    (SeparateKeys.separates hCode).toOverwrites⟩

instance [RewritingKeys] : ReadBackKeys :=
  ⟨fun hCode =>
    (RewritingKeys.rewrites hCode).toReadsBack⟩

instance [RewritingKeys] : OverwritingKeys :=
  ⟨fun hCode =>
    (RewritingKeys.rewrites hCode).toOverwrites⟩

end Laws

------------------------------------------------------------
-- Records and Containers
------------------------------------------------------------

namespace Value

variable [RecordKeys]

/- A value that is no record answers keys as containers do. -/
structure KeepsEntries (v : Value) : Prop where
  isKeyed : v.isKeyed = v.isContainer
  entry? : ∀ key, v.entry? key = v.ownEntry? key
  entryPlace? :
    ∀ key, v.entryPlace? key = v.ownEntryPlace? key
  setEntry :
    ∀ key x, v.setEntry key x = v.setOwnEntry key x

/- Keys are answered by the code of a record, if it has any,
   or as containers do. -/
@[elab_as_elim] theorem keyCases
    {motive : Value → Prop}
    (record :
      ∀ d fields code, RecordKeys.code? d = some code →
        motive (.record d fields))
    (unkeyed :
      ∀ d fields, RecordKeys.code? d = none →
        motive (.record d fields))
    (own : ∀ v, v.KeepsEntries → motive v)
    (v : Value) :
    motive v := by
  cases v with
  | record d fields =>
      cases hCode : RecordKeys.code? d with
      | none => exact unkeyed d fields hCode
      | some code => exact record d fields code hCode
  | _ =>
      exact
        own _ ⟨rfl, fun _ => rfl, fun _ => rfl, fun _ _ => rfl⟩

section Records

variable {d : Declaration Shape} {fields : List Value}
variable {code : KeyCode}

/- The code of a record finds its entries. -/
theorem entry?_record
    (hCode : RecordKeys.code? d = some code)
    (key : Key) :
    entry? (record d fields) key = code.find? fields key := by
  simp only [ entry?, hCode]

/- A record without code has no entries. -/
theorem entry?_unkeyed
    (hCode : RecordKeys.code? d = none)
    (key : Key) :
    entry? (record d fields) key = none := by
  simp only [ entry?, hCode]

/- A record without code has no places for entries. -/
theorem entryPlace?_unkeyed
    (hCode : RecordKeys.code? d = none)
    (key : Key) :
    (record d fields).entryPlace? key = none := by
  simp only [entryPlace?, hCode]

/- The code of a record finds the places of its entries. -/
theorem entryPlace?_record_eq_some_iff
    (hCode : RecordKeys.code? d = some code)
    (key : Key)
    (place : Place) :
    (record d fields).entryPlace? key = some place ↔
      ∃ inner,
        code.place? fields key = some inner ∧
          place = inner.within d := by
  simp only [entryPlace?, hCode, Option.map_eq_some_iff]
  simp only [eq_comm]

/- The code of a record writes its entries. -/
theorem setEntry_record
    (hCode : RecordKeys.code? d = some code)
    (key : Key)
    (x : Value) :
    (record d fields).setEntry key x =
      match code.set fields key x with
      | .ok after => .done (.record d after)
      | .error e => .refuse (.record d fields) e := by
  cases hSet : code.set fields key x with
  | ok after => simp only [setEntry, hCode, hSet]
  | error e => simp only [setEntry, hCode, hSet]

end Records

end Value

end TreePath
