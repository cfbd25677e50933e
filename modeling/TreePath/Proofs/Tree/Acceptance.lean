import TreePath.Proofs.Tree.Agreement
import TreePath.Proofs.Tree.Edits

/-
  Which values a container takes at a key, and what it says to
  those that it does not take.  Several things can be wrong at
  once; documents look for them in another order than all
  other containers.

  Key definitions include:
    * `Value.AcceptsEntry`
    * `Value.EntryFault`
    * `Value.FirstFault`
    * `Verdict`

  Main statements:
    * `Value.AcceptsEntry.not_entryFault`
    * `Value.FirstFault.unique`
    * `Value.verdict_setOwnEntry`
-/

------------------------------------------------------------
-- Verdicts
------------------------------------------------------------

namespace TreePath

/-
  A write that takes place was to be accepted, and one that is
  refused was to be refused for the reason that it gives.
-/
inductive Verdict
    {ε : Type}
    (accepts : Prop)
    (refuses : ε → Prop) : Except ε Unit → Prop
| accepted
    (hAccepts : accepts) :
    Verdict accepts refuses (.ok ())
| refused
    {e : ε}
    (hRefuses : refuses e) :
    Verdict accepts refuses (.error e)

namespace Verdict

variable {ε : Type} {accepts accepts' : Prop}
variable {refuses refuses' : ε → Prop}
variable {result : Except ε Unit}

/- A verdict under weaker conditions. -/
theorem imp
    (hVerdict : Verdict accepts refuses result)
    (hAccepts : accepts → accepts')
    (hRefuses : ∀ e, refuses e → refuses' e) :
    Verdict accepts' refuses' result := by
  cases hVerdict with
  | accepted hHolds => exact .accepted (hAccepts hHolds)
  | refused hHolds => exact .refused (hRefuses _ hHolds)

/- If nothing is both, what is to be accepted takes place. -/
theorem eq_ok_iff
    (hVerdict : Verdict accepts refuses result)
    (hApart : ∀ e, accepts → ¬ refuses e) :
    result = .ok () ↔ accepts := by
  cases hVerdict with
  | accepted hAccepts => exact iff_of_true rfl hAccepts
  | @refused e hRefuses =>
      refine iff_of_false ?_ ?_
      · intro hOk
        cases hOk
      · intro hAccepts
        exact hApart e hAccepts hRefuses

/- If there is one reason at most, it is the one given. -/
theorem eq_error_iff
    (hVerdict : Verdict accepts refuses result)
    (hApart : ∀ e, accepts → ¬ refuses e)
    (hUnique : ∀ e e', refuses e → refuses e' → e = e')
    (e : ε) :
    result = .error e ↔ refuses e := by
  cases hVerdict with
  | accepted hAccepts =>
      refine iff_of_false ?_ (hApart e hAccepts)
      intro hError
      cases hError
  | @refused e' hRefuses =>
      constructor
      · intro hError
        rcases Except.error.inj hError with rfl
        exact hRefuses
      · intro hOther
        rw [hUnique e' e hRefuses hOther]

end Verdict

namespace Value

variable {v x : Value} {key : Key}

------------------------------------------------------------
-- What Is Accepted
------------------------------------------------------------

/-
  Sequences and the arrays of documents replace an item that
  is there.  Dictionaries, the objects of documents and
  objects take any name.  All of them but objects take values
  of exactly one type.
-/
inductive AcceptsEntry : Value → Key → Value → Prop
| item
    {kind : SequenceKind}
    {elem : Shape}
    {items : List Value}
    {i : UInt64}
    {x : Value}
    (hInside : i.toNat < items.length)
    (hType : x.type = elem.nominal) :
    AcceptsEntry (.sequence kind elem items) (.index i) x
| entry
    {kind : DictionaryKind}
    {elem : Shape}
    {entries : List (String × Value)}
    {name : String}
    {x : Value}
    (hType : x.type = elem.nominal) :
    AcceptsEntry (.dictionary kind elem entries) (.name name) x
| member
    {members : List (String × Json)}
    {name : String}
    {x : Value}
    (hType : x.type = .json) :
    AcceptsEntry (.json (.object members)) (.name name) x
| jsonItem
    {items : List Json}
    {i : UInt64}
    {x : Value}
    (hInside : i.toNat < items.length)
    (hType : x.type = .json) :
    AcceptsEntry (.json (.array items)) (.index i) x
| attached
    {attributes : Attributes Value}
    {entries : List (String × Value)}
    {name : String}
    {x : Value} :
    AcceptsEntry (.object attributes entries) (.name name) x

------------------------------------------------------------
-- What Is Wrong
------------------------------------------------------------

/- Sequences answer positions, all other containers names. -/
def answersKey
    (v : Value)
    (key : Key) : Bool :=
  match v, key with
  | .sequence _ _ _, .index _ => true
  | .dictionary _ _ _, .name _ => true
  | .json (.object _), .name _ => true
  | .json (.array _), .index _ => true
  | .object _ _, .name _ => true
  | _, _ => false

/-
  What can be wrong with a write to an entry, whatever else is
  wrong with it: there are no entries, the key is none of
  those that are answered, the position is not there, or the
  value is of another type than the entry.
-/
inductive EntryFault
    (v x : Value) : Key → AssignError → Prop
| notKeyed
    {key : Key}
    (hLeaf : v.isContainer = false) :
    EntryFault v x key (.notKeyed v.typeName)
| wrongKey
    {key : Key}
    (hKey : v.answersKey key = false) :
    EntryFault v x key (.invalidKey key v.typeName)
| outside
    {i : UInt64}
    (hKey : v.answersKey (.index i) = true)
    (hOutside : v.ownCount ≤ i.toNat) :
    EntryFault v x (.index i)
      (.indexOutOfBounds i v.ownCount v.typeName)
| wrongType
    {key : Key}
    {asked : Shape}
    (hAsked : v.shape.slotType? (.entry key) = some asked)
    (hType : x.type ≠ asked) :
    EntryFault v x key
      (.mismatchedTypes asked.typeName x.typeName)

/-
  When a fault is looked for.  Documents look at the value
  before anything else, and all other containers at last.
-/
def faultRank
    (v : Value) : AssignError → Nat
| .notKeyed _ => 1
| .invalidKey _ _ => 2
| .indexOutOfBounds _ _ _ => 3
| .mismatchedTypes _ _ => if v.shape = .json then 0 else 4
| _ => 5

/- The fault that is looked for before all others there are. -/
structure FirstFault
    (v : Value)
    (key : Key)
    (x : Value)
    (e : AssignError) : Prop where
  applies : v.EntryFault x key e
  first :
    ∀ other, v.EntryFault x key other →
      v.faultRank e ≤ v.faultRank other

/- Faults are looked for one after the other. -/
theorem EntryFault.eq_of_faultRank
    {e e' : AssignError}
    (hFault : v.EntryFault x key e)
    (hOther : v.EntryFault x key e')
    (hRank : v.faultRank e = v.faultRank e') :
    e = e' := by
  cases hFault with
  | notKeyed hLeaf =>
      cases hOther with
      | notKeyed hLeaf => rfl
      | _ => grind [faultRank]
  | wrongKey hKey =>
      cases hOther with
      | wrongKey hKey => rfl
      | _ => grind [faultRank]
  | outside hKey hOutside =>
      cases hOther with
      | outside hKey hOutside => rfl
      | _ => grind [faultRank]
  | wrongType hAsked hType =>
      cases hOther with
      | wrongType hAlso hType =>
          rw [hAsked] at hAlso
          rcases Option.some.inj hAlso with rfl
          rfl
      | _ => grind [faultRank]

/- So there is one first fault at most. -/
theorem FirstFault.unique
    {e e' : AssignError}
    (hFirst : v.FirstFault key x e)
    (hOther : v.FirstFault key x e') :
    e = e' :=
  hFirst.applies.eq_of_faultRank hOther.applies
    (Nat.le_antisymm (hFirst.first e' hOther.applies)
      (hOther.first e hFirst.applies))

------------------------------------------------------------
-- Nothing Wrong
------------------------------------------------------------

/- Only containers answer keys. -/
theorem isContainer_of_answersKey
    (hKey : v.answersKey key = true) :
    v.isContainer = true := by
  unfold answersKey at hKey
  split at hKey
  · rfl
  · rfl
  · rfl
  · rfl
  · rfl
  · cases hKey

namespace AcceptsEntry

/- What is accepted stands at a key that is answered. -/
theorem answersKey
    (hAccepts : v.AcceptsEntry key x) :
    v.answersKey key = true := by
  cases hAccepts with
  | _ => rfl

/- A position is one that exists. -/
theorem inside
    {i : UInt64}
    (hAccepts : v.AcceptsEntry (.index i) x) :
    i.toNat < v.ownCount := by
  cases hAccepts with
  | item hInside hType => exact hInside
  | jsonItem hInside hType => exact hInside

/- The value is of the type that is asked for. -/
theorem suits
    (hAccepts : v.AcceptsEntry key x) :
    x.Suits v.shape (.entry key) := by
  intro asked hAsked
  cases hAccepts with
  | item hInside hType =>
      exact hType.trans (Option.some.inj hAsked)
  | entry hType => exact hType.trans (Option.some.inj hAsked)
  | member hType => exact hType.trans (Option.some.inj hAsked)
  | jsonItem hInside hType =>
      exact hType.trans (Option.some.inj hAsked)
  | attached => cases hAsked

/- Nothing is wrong with what is accepted. -/
theorem not_entryFault
    {e : AssignError}
    (hAccepts : v.AcceptsEntry key x) :
    ¬ v.EntryFault x key e := by
  intro hFault
  have hAnswers := hAccepts.answersKey
  cases hFault with
  | notKeyed hLeaf =>
      rw [isContainer_of_answersKey hAnswers] at hLeaf
      cases hLeaf
  | wrongKey hKey =>
      rw [hAnswers] at hKey
      cases hKey
  | outside hKey hOutside =>
      exact absurd hAccepts.inside (Nat.not_lt.mpr hOutside)
  | wrongType hAsked hType =>
      exact hType (hAccepts.suits _ hAsked)

end AcceptsEntry

/- What there is room for and what is of the type is taken. -/
theorem acceptsEntry_of_takesEntry
    (hTakes : v.TakesEntry key x)
    (hSuits : x.Suits v.shape (.entry key)) :
    v.AcceptsEntry key x := by
  cases v, key using entryCases with
  | sequence kind elem items i =>
      exact .item hTakes (hSuits _ rfl)
  | dictionary kind elem entries name =>
      exact .entry (hSuits _ rfl)
  | document members name => exact .member hTakes
  | array items i => exact .jsonItem hTakes.1 hTakes.2
  | object attributes entries name => exact .attached
  | other v key hLacks => exact absurd hTakes (hLacks.full x)

------------------------------------------------------------
-- The First Fault
------------------------------------------------------------

/- Documents look at the value before anything else. -/
theorem firstFault_document
    (j : Json)
    (hType : x.type ≠ .json) :
    (Value.json j).FirstFault key x
      (.mismatchedTypes Shape.json.typeName x.typeName) := by
  refine ⟨.wrongType rfl hType, ?_⟩
  intro other _
  exact Nat.zero_le _

/- Then, or at first, it is seen that there are no entries. -/
theorem firstFault_notKeyed
    (hLeaf : v.isContainer = false)
    (hSuits : x.Suits v.shape (.entry key)) :
    v.FirstFault key x (.notKeyed v.typeName) := by
  refine ⟨.notKeyed hLeaf, ?_⟩
  intro other hOther
  cases hOther with
  | wrongType hAsked hType =>
      exact absurd (hSuits _ hAsked) hType
  | _ => simp [faultRank]

/- Then comes the key. -/
theorem firstFault_wrongKey
    (hContainer : v.isContainer = true)
    (hDocument : v.shape = .json → x.type = .json)
    (hKey : v.answersKey key = false) :
    v.FirstFault key x (.invalidKey key v.typeName) := by
  refine ⟨.wrongKey hKey, ?_⟩
  intro other hOther
  cases hOther with
  | notKeyed hLeaf =>
      rw [hContainer] at hLeaf
      cases hLeaf
  | wrongType hAsked hType => grind [faultRank, Shape.slotType?]
  | _ => simp [faultRank]

/- Then its position. -/
theorem firstFault_outside
    {i : UInt64}
    (hDocument : v.shape = .json → x.type = .json)
    (hKey : v.answersKey (.index i) = true)
    (hOutside : v.ownCount ≤ i.toNat) :
    v.FirstFault (.index i) x
      (.indexOutOfBounds i v.ownCount v.typeName) := by
  refine ⟨.outside hKey hOutside, ?_⟩
  intro other hOther
  cases hOther with
  | notKeyed hLeaf =>
      rw [isContainer_of_answersKey hKey] at hLeaf
      cases hLeaf
  | wrongKey hOtherKey =>
      rw [hKey] at hOtherKey
      cases hOtherKey
  | wrongType hAsked hType => grind [faultRank, Shape.slotType?]
  | _ => simp [faultRank]

/- At last, all other containers look at the value. -/
theorem firstFault_wrongType
    {asked : Shape}
    (hKey : v.answersKey key = true)
    (hInside : ∀ i, key = .index i → i.toNat < v.ownCount)
    (hAsked : v.shape.slotType? (.entry key) = some asked)
    (hType : x.type ≠ asked) :
    v.FirstFault key x
      (.mismatchedTypes asked.typeName x.typeName) := by
  refine ⟨.wrongType hAsked hType, ?_⟩
  intro other hOther
  cases hOther with
  | notKeyed hLeaf =>
      rw [isContainer_of_answersKey hKey] at hLeaf
      cases hLeaf
  | wrongKey hOtherKey =>
      rw [hKey] at hOtherKey
      cases hOtherKey
  | outside hOtherKey hOutside =>
      exact absurd (hInside _ rfl) (Nat.not_lt.mpr hOutside)
  | wrongType hOtherAsked hOtherType => exact Nat.le_refl _

------------------------------------------------------------
-- Containers
------------------------------------------------------------

/- A slot takes values of the type of what stands there. -/
theorem verdict_overwriteSlot
    {place : Place}
    {type : Shape}
    (hNode : place.node.type = type)
    (x : Value) :
    Verdict (x.type = type)
      (fun e =>
        x.type ≠ type ∧
          e = .mismatchedTypes type.typeName x.typeName)
      ((place.node.overwriteSlot x).within place).result := by
  subst hNode
  by_cases hType : x.type = place.node.type
  · rw [overwriteSlot_within hType]
    exact .accepted hType
  · unfold overwriteSlot
    rw [overwrite_of_type_ne hType, typeName_type]
    exact .refused ⟨hType, rfl⟩

/- Sequences have items replaced that are there. -/
theorem verdict_setItem
    {kind : SequenceKind}
    {elem : Shape}
    {items : List Value}
    (hTypes : ∀ item ∈ items, item.type = elem.nominal)
    (key : Key)
    (x : Value) :
    Verdict
      (AcceptsEntry (.sequence kind elem items) key x)
      (FirstFault (.sequence kind elem items) key x)
      ((sequence kind elem items).setOwnEntry
        key x).result := by
  have hDocument :
      Shape.sequence kind elem = .json → x.type = .json := by
    intro hType
    cases hType
  cases key with
  | name name =>
      exact .refused (firstFault_wrongKey rfl hDocument rfl)
  | index i =>
      simp only [setOwnEntry, setItem, itemPlace?]
      cases hItem : items[i.toNat]? with
      | none =>
          have hOutside : items.length ≤ i.toNat :=
            List.getElem?_eq_none_iff.mp hItem
          exact
            .refused (firstFault_outside hDocument rfl hOutside)
      | some item =>
          have hInside : i.toNat < items.length :=
            (List.getElem?_eq_some_iff.mp hItem).1
          have hElem : item.type = elem.nominal :=
            hTypes item (List.mem_of_getElem? hItem)
          refine (verdict_overwriteSlot hElem x).imp ?_ ?_
          · intro hType
            exact .item hInside hType
          · rintro e ⟨hType, rfl⟩
            refine firstFault_wrongType rfl ?_ rfl hType
            rintro j ⟨rfl⟩
            exact hInside

/- Documents have the value checked, and then the key. -/
theorem verdict_setJsonEntry
    (j : Json)
    (key : Key)
    (x : Value) :
    Verdict
      (AcceptsEntry (.json j) key x)
      (FirstFault (.json j) key x)
      (setJsonEntry j key x).result := by
  by_cases hType : x.type = .json
  · have hDocument : (json j).shape = .json → x.type = .json :=
      fun _ => hType
    rcases exists_json_of_type hType with ⟨new, rfl⟩
    cases j with
    | object members =>
        cases key with
        | name name => exact .accepted (.member rfl)
        | index i =>
            exact
              .refused (firstFault_wrongKey rfl hDocument rfl)
    | array items =>
        cases key with
        | name name =>
            exact
              .refused (firstFault_wrongKey rfl hDocument rfl)
        | index i =>
            simp only [setJsonEntry]
            by_cases hInside : i.toNat < items.length
            · rw [if_pos hInside]
              exact .accepted (.jsonItem hInside rfl)
            · rw [if_neg hInside]
              exact
                .refused
                  (firstFault_outside hDocument rfl
                    (Nat.not_lt.mp hInside))
    | _ =>
        refine .refused (firstFault_notKeyed rfl ?_)
        intro asked hAsked
        exact Option.some.inj hAsked
  · cases x with
    | json new => exact absurd rfl hType
    | _ => exact .refused (firstFault_document j hType)

/-
  A container accepts or refuses what is put at a key.
-/
theorem verdict_setOwnEntry
    (hTyped : v.WellTyped)
    (key : Key)
    (x : Value) :
    Verdict (v.AcceptsEntry key x) (v.FirstFault key x)
      (v.setOwnEntry key x).result := by
  cases v with
  | sequence kind elem items =>
      cases hTyped with
      | sequence hSize hTypes hItems =>
          exact verdict_setItem hTypes key x
  | dictionary kind elem entries =>
      cases key with
      | index i =>
          refine .refused (firstFault_wrongKey rfl ?_ rfl)
          intro hType
          cases hType
      | name name =>
          simp only [setOwnEntry]
          by_cases hType : x.type = elem.nominal
          · rw [if_pos hType]
            exact .accepted (.entry hType)
          · rw [if_neg hType, ← elem.typeName_nominal]
            refine
              .refused (firstFault_wrongType rfl ?_ rfl hType)
            intro i hKey
            cases hKey
  | json j => exact verdict_setJsonEntry j key x
  | object attributes entries =>
      cases key with
      | index i =>
          refine .refused (firstFault_wrongKey rfl ?_ rfl)
          intro hType
          cases hType
      | name name => exact .accepted .attached
  | _ =>
      refine .refused (firstFault_notKeyed rfl ?_)
      intro asked hAsked
      cases hAsked

------------------------------------------------------------
-- Accepted Writes
------------------------------------------------------------

/- A write to an entry that takes place stores it. -/
theorem setOwnEntry_eq_done
    (hDone : (v.setOwnEntry key x).result = .ok ()) :
    v.TakesEntry key x ∧
      (v.WellTyped → x.Suits v.shape (.entry key)) ∧
        v.setOwnEntry key x = .done (v.storeEntry key x) := by
  have hStores := stores_setOwnEntry v key x
  generalize v.setOwnEntry key x = u at hDone hStores ⊢
  cases hStores with
  | refused e => cases hDone
  | stored hTakes hSuits =>
      rw [takes_entry] at hTakes
      rw [store_entry]
      exact ⟨hTakes, hSuits, rfl⟩

/- In a well-typed container, what fits takes place. -/
theorem setOwnEntry_of_takesEntry
    (hTyped : v.WellTyped)
    (hTakes : v.TakesEntry key x)
    (hSuits : x.Suits v.shape (.entry key)) :
    v.setOwnEntry key x = .done (v.storeEntry key x) := by
  have hAccepts := acceptsEntry_of_takesEntry hTakes hSuits
  have hVerdict := verdict_setOwnEntry hTyped key x
  have hDone : (v.setOwnEntry key x).result = .ok () := by
    rw [hVerdict.eq_ok_iff]
    · exact hAccepts
    · intro e _ hFault
      exact hAccepts.not_entryFault hFault.applies
  exact (setOwnEntry_eq_done hDone).2.2

end Value

end TreePath
