import TreePath.Derive.Implementation
import TreePath.Item.Grammar
import TreePath.Proofs.Derive.Fields
import TreePath.Proofs.Item.Quoting
import TreePath.Proofs.Item.Words

/-
  Which items an implementation is derived for, how the fields
  of the derived struct are found, and what is wrong with all
  other items.

  Key definitions include:
    * `NodeStruct.Derivable`
    * `NodeStruct.Refused`
    * `NodeStruct.armFor`
    * `NodeStruct.FieldsFound`

  Main statements:
    * `NodeStruct.derivable_or_refused`
    * `NodeStruct.armFor_eq_some_iff`
    * `NodeStruct.ofDeclared_verdict`
-/

------------------------------------------------------------
-- Items
------------------------------------------------------------

namespace TreePath

open Item FieldEntry

/- What the attributes of an item hold, all of them together,
   up to the first thing that is wrong. -/
def Declared.Holds
    (d : Declared)
    (entries : List ItemEntry)
    (fault : Option DeriveError) : Prop :=
  AttributesHold ItemEntry.Names ItemEntry.Refuses
    d.attributes entries fault

namespace NodeStruct

/-
  The struct that is derived for an item: one with named
  fields and nothing wrong in its attributes.  All its fields
  can be followed; those that are not left out are shown in
  order, under names that are distinct.
-/
structure Derivable
    (d : Declared)
    (s : NodeStruct) : Prop where
  name : s.name = d.name
  generics : s.generics = d.generics
  keyed :
    ∃ entries,
      d.Holds entries none ∧
        (s.keyed = true ↔ .keyed ∈ entries)
  fields :
    ∃ given : List GivenField,
      d.body = .fields (given.map GivenField.field) ∧
        s.fields = given.filterMap GivenField.shown
  distinct : (s.fields.map ShownField.name).Nodup

/-
  Why no struct is derived for an item: it has no named
  fields, or something is wrong in its attributes, or with one
  of its fields but with none in front of that.
-/
inductive Refused
    (d : Declared) : DeriveError → Prop
| noNamedFields
    (hBody : d.body = .other) :
    Refused d .noNamedFields
| item
    {fields : List Field}
    {entries : List ItemEntry}
    {e : DeriveError}
    (hBody : d.body = .fields fields)
    (hHolds : d.Holds entries (some e)) :
    Refused d e
| field
    {entries : List ItemEntry}
    {before : List GivenField}
    {f : Field}
    {after : List Field}
    {e : DeriveError}
    (hHolds : d.Holds entries none)
    (hBody :
      d.body =
        .fields (before.map GivenField.field ++ f :: after))
    (hDistinct :
      ((before.filterMap GivenField.shown).map
        ShownField.name).Nodup)
    (hWrong : f.Wrong (before.filterMap GivenField.shown) e) :
    Refused d e

/- An item is marked if an entry marks it. -/
theorem keyedOf_map_ok
    (entries : List ItemEntry)
    (more : List (Except DeriveError ItemEntry)) :
    keyedOf (entries.map .ok ++ more) =
      (keyedOf more).map (fun marked =>
        decide (.keyed ∈ entries) || marked) := by
  induction entries with
  | nil =>
      cases hMore : keyedOf more with
      | error e => simp [hMore, Except.map]
      | ok marked => simp [hMore, Except.map]
  | cons entry entries ih =>
      cases entry with
      | keyed =>
          rw [List.map_cons, List.cons_append, keyedOf, ih]
          cases keyedOf more with
          | error e => rfl
          | ok marked => simp [Except.map]

variable {d : Declared} {s : NodeStruct} {e : DeriveError}

/- What the attributes of an item hold is read from them. -/
theorem yields_of_holds
    {entries : List ItemEntry}
    {fault : Option DeriveError}
    (hHolds : d.Holds entries fault) :
    Yields (ItemEntry.ofAttributes d.attributes) entries
      fault :=
  ItemEntry.reading.yields_of_attributesHold hHolds

/- An item without faults is marked by its entries. -/
theorem keyedOf_of_none
    {entries : List ItemEntry}
    (hHolds : d.Holds entries none) :
    keyedOf (ItemEntry.ofAttributes d.attributes) =
      .ok (decide (.keyed ∈ entries)) := by
  have hRead := keyedOf_map_ok entries []
  rw [List.append_nil] at hRead
  rw [show ItemEntry.ofAttributes d.attributes =
      entries.map .ok from yields_of_holds hHolds, hRead]
  simp [keyedOf, Except.map]

/- The first fault in its attributes counts. -/
theorem keyedOf_of_fault
    {entries : List ItemEntry}
    (hHolds : d.Holds entries (some e)) :
    keyedOf (ItemEntry.ofAttributes d.attributes) =
      .error e := by
  rcases yields_of_holds hHolds with ⟨more, hRead⟩
  rw [hRead, keyedOf_map_ok]
  rfl

/- A struct that is derivable is derived. -/
theorem ofDeclared_of_derivable
    (hDerivable : Derivable d s) :
    ofDeclared d = .ok s := by
  rcases hDerivable.keyed with ⟨entries, hHolds, hKeyed⟩
  rcases hDerivable.fields with ⟨given, hBody, hFields⟩
  have hShown :
      ShownField.ofFields [] (given.map GivenField.field) =
        .ok s.fields := by
    have hDistinct := hDerivable.distinct
    rw [hFields] at hDistinct ⊢
    exact ShownField.ofFields_of_distinct hDistinct
  have hMarked : decide (.keyed ∈ entries) = s.keyed := by
    rw [Bool.eq_iff_iff, decide_eq_true_iff, hKeyed]
  unfold ofDeclared
  simp only [hBody, keyedOf_of_none hHolds, hShown, bind,
    Except.bind, hMarked, ← hDerivable.name,
    ← hDerivable.generics]

/- What is wrong with an item is told of it. -/
theorem ofDeclared_of_refused
    (hRefused : Refused d e) :
    ofDeclared d = .error e := by
  unfold ofDeclared
  cases hRefused with
  | noNamedFields hBody => simp only [hBody]
  | item hBody hHolds =>
      simp only [hBody, keyedOf_of_fault hHolds, bind,
        Except.bind]
  | field hHolds hBody hDistinct hWrong =>
      simp only [hBody, keyedOf_of_none hHolds, bind,
        Except.bind,
        ShownField.ofFields_of_wrong hDistinct hWrong]

/- A struct is derivable for every item, or something is
   wrong with it. -/
theorem derivable_or_refused
    (d : Declared) :
    (∃ s, Derivable d s) ∨ ∃ e, Refused d e := by
  cases hBody : d.body with
  | other => exact .inr ⟨_, .noNamedFields hBody⟩
  | fields fields =>
      rcases
          ItemEntry.reading.exists_attributesHold d.attributes
        with ⟨entries, fault, hHolds⟩
      cases fault with
      | some e => exact .inr ⟨e, .item hBody hHolds⟩
      | none =>
          rcases
              ShownField.distinct_or_wrong [] List.nodup_nil
                fields
            with
              ⟨given, hFields, hDistinct⟩ |
              ⟨before, f, after, e, hFields, hDistinct, hWrong⟩
          · let s : NodeStruct :=
              { name := d.name
                generics := d.generics
                keyed := decide (.keyed ∈ entries)
                fields := given.filterMap GivenField.shown }
            have hGiven :
                d.body =
                  .fields (given.map GivenField.field) := by
              rw [hBody, hFields]
              rfl
            exact
              .inl ⟨s, rfl, rfl,
                ⟨entries, hHolds, decide_eq_true_iff⟩,
                ⟨given, hGiven, rfl⟩, hDistinct⟩
          · have hFirst :
                d.body =
                  .fields
                    (before.map GivenField.field ++
                      f :: after) := by
              rw [hBody, hFields]
              rfl
            exact
              .inr ⟨e, .field hHolds hFirst hDistinct hWrong⟩

/- An item gives a struct if and only if it is derivable. -/
theorem ofDeclared_eq_ok_iff :
    ofDeclared d = .ok s ↔ Derivable d s := by
  constructor
  · intro hAccepted
    rcases derivable_or_refused d with
      ⟨other, hDerivable⟩ | ⟨e, hRefused⟩
    · rw [ofDeclared_of_derivable hDerivable] at hAccepted
      exact Except.ok.inj hAccepted ▸ hDerivable
    · rw [ofDeclared_of_refused hRefused] at hAccepted
      cases hAccepted
  · exact ofDeclared_of_derivable

/- It is refused for the first thing that is wrong. -/
theorem ofDeclared_eq_error_iff :
    ofDeclared d = .error e ↔ Refused d e := by
  constructor
  · intro hFails
    rcases derivable_or_refused d with
      ⟨s, hDerivable⟩ | ⟨other, hRefused⟩
    · rw [ofDeclared_of_derivable hDerivable] at hFails
      cases hFails
    · rw [ofDeclared_of_refused hRefused] at hFails
      exact Except.error.inj hFails ▸ hRefused
  · exact ofDeclared_of_refused

end NodeStruct

------------------------------------------------------------
-- Names
------------------------------------------------------------

/- A name is given if an entry gives it. -/
theorem FieldEntry.mem_renames_iff
    {name : String}
    {entries : List FieldEntry} :
    name ∈ renames entries ↔ .rename name ∈ entries := by
  induction entries with
  | nil => simp
  | cons entry entries ih =>
      cases entry with
      | skip => simp [ih]
      | rename other => simp [ih]

/- No field is given the empty name. -/
theorem GivenField.ne_empty_of_mem
    {g : GivenField}
    {name : String}
    (hMember : name ∈ renames g.entries) :
    name ≠ "" := by
  have hEntry := FieldEntry.mem_renames_iff.mp hMember
  rcases AttributesHold.exists_names g.holds _ hEntry with
    ⟨path, mid, rest, hNames⟩
  cases hNames with
  | rename hText hName => exact hName

/- A name has something besides its sign. -/
theorem withoutSign_ne_empty
    {text : String}
    (hName :
      Identifier.isIdentifier text.toList = true ∨
        Identifier.isRawName text = true) :
    withoutSign text ≠ "" := by
  unfold withoutSign
  split
  case h_1 cs hSign =>
    rcases hName with hIdentifier | hRaw
    · -- A number sign is in no identifier.
      have hNone : Identifier.isContinue '#' = false :=
        Identifier.isContinue_of_outside (by decide)
      rw [hSign, Identifier.isIdentifier, List.all_cons,
        hNone] at hIdentifier
      simp at hIdentifier
    · simp only [Identifier.isRawName, hSign,
        Bool.and_eq_true] at hRaw
      cases cs with
      | nil => cases hRaw.1
      | cons c cs => simp
  case h_2 =>
    rcases hName with hIdentifier | hRaw
    · rintro rfl
      cases hIdentifier
    · rintro rfl
      cases hRaw

namespace NodeStruct

/- The text that a written literal stands for. -/
def denoted?
    (written : String) : Option String :=
  match readToken? written.toList with
  | some (.literal l, []) => l.value
  | _ => none

/-
  The field whose arm a name chooses.  Arms are tried in order
  until the literal of one stands for the name.
-/
def armFor
    (s : NodeStruct)
    (name : String) : Option ShownField :=
  s.fields.find? (fun f =>
    denoted? (Literal.ofText f.name).written == some name)

/- A literal stands for the text that it was written for. -/
theorem denoted?_ofText
    (text : String) :
    denoted? (Literal.ofText text).written = some text := by
  rw [denoted?, readToken?_ofText]
  rfl

/- Where names are distinct, a name chooses its field. -/
theorem armFor_eq_some_iff
    {s : NodeStruct}
    (hDistinct : (s.fields.map ShownField.name).Nodup)
    {name : String}
    {f : ShownField} :
    s.armFor name = some f ↔ f ∈ s.fields ∧ f.name = name := by
  unfold armFor
  simp only [denoted?_ofText, Option.some_beq_some]
  generalize s.fields = fields at hDistinct ⊢
  induction fields with
  | nil => simp
  | cons g fields ih =>
      rw [List.map_cons, List.nodup_cons] at hDistinct
      rcases hDistinct with ⟨hFirst, hLater⟩
      by_cases hName : g.name = name
      · -- No later field has the name of the first one.
        have hOnly : f ∈ fields → f.name ≠ name := by
          rintro hMember rfl
          exact hFirst (hName ▸ List.mem_map_of_mem hMember)
        rw [List.find?_cons_of_pos (by simpa using hName),
          Option.some_inj, List.mem_cons]
        constructor
        · rintro rfl
          exact ⟨.inl rfl, hName⟩
        · rintro ⟨rfl | hMember, hSame⟩
          · rfl
          · exact absurd hSame (hOnly hMember)
      · rw [List.find?_cons_of_neg (by simpa using hName),
          ih hLater, List.mem_cons]
        constructor
        · rintro ⟨hMember, hSame⟩
          exact ⟨.inr hMember, hSame⟩
        · rintro ⟨rfl | hMember, hSame⟩
          · exact absurd hSame hName
          · exact ⟨hMember, hSame⟩

/- The texts of the arm of a field. -/
def armTexts
    (found : ShownField → List String)
    (f : ShownField) : List String :=
  [(Literal.ofText f.name).written,
    "=>::core::option::Option::Some("] ++ found f ++ ["),"]

/-
  How the fields of a derived struct are found.  Their names
  are distinct and not empty, as long as those of the declared
  fields are names.  Every choice by name has an arm for every
  field, in order, and a name chooses the field that is shown
  under it.
-/
structure FieldsFound
    (d : Declared)
    (s : NodeStruct) : Prop where
  distinct : (s.fields.map ShownField.name).Nodup
  nonempty :
    (∀ fields,
      d.body = .fields fields →
        ∀ f ∈ fields,
          Identifier.isIdentifier f.name.toList = true ∨
            Identifier.isRawName f.name = true) →
      ∀ f ∈ s.fields, f.name ≠ ""
  arms :
    ∀ found,
      s.arms found =
        ["match name"] ++
          inBraces
            (s.fields.flatMap (armTexts found) ++
              ["_=>::core::option::Option::None,"])
  chosen :
    ∀ name f,
      s.armFor name = some f ↔ f ∈ s.fields ∧ f.name = name

/- The fields of a derivable struct are found. -/
theorem fieldsFound_of_derivable
    {d : Declared}
    {s : NodeStruct}
    (hDerivable : Derivable d s) :
    FieldsFound d s where
  distinct := hDerivable.distinct
  nonempty := by
    intro hNames f hMember
    rcases hDerivable.fields with ⟨given, hBody, hFields⟩
    rw [hFields, List.mem_filterMap] at hMember
    rcases hMember with ⟨g, hGiven, hShown⟩
    unfold GivenField.shown at hShown
    split at hShown
    case isTrue => cases hShown
    case isFalse =>
      rcases Option.some.inj hShown with rfl
      cases hRenamed : (renames g.entries).head? with
      | none =>
          exact withoutSign_ne_empty
            (hNames _ hBody g.field
              (List.mem_map_of_mem hGiven))
      | some name =>
          exact GivenField.ne_empty_of_mem
            (List.mem_of_mem_head? hRenamed)
  arms := fun _ => rfl
  chosen := fun _ _ => armFor_eq_some_iff hDerivable.distinct

------------------------------------------------------------
-- Verdicts
------------------------------------------------------------

/-
  An item gives a struct if and only if it is derivable, and
  the fields of the struct are then found by their names.  All
  other items are refused, with the message for the first
  thing that is wrong.
-/
theorem ofDeclared_verdict
    (d : Declared) :
    (∀ s, ofDeclared d = .ok s ↔ Derivable d s) ∧
      (∀ e, ofDeclared d = .error e ↔ Refused d e) ∧
        (∀ text,
          (ofDeclared d).mapError DeriveError.message =
              .error text ↔
            ∃ e, Refused d e ∧ e.message = text) ∧
          ∀ s, ofDeclared d = .ok s → FieldsFound d s := by
  refine
    ⟨fun _ => ofDeclared_eq_ok_iff,
      fun _ => ofDeclared_eq_error_iff, ?_, ?_⟩
  · intro text
    simp only [← ofDeclared_eq_error_iff]
    cases ofDeclared d with
    | error e => simp [Except.mapError]
    | ok s => simp [Except.mapError]
  · intro s hAccepted
    exact fieldsFound_of_derivable
      (ofDeclared_eq_ok_iff.mp hAccepted)

/-
  A second name counts before the comma that is missing behind
  it, and both count before the name that is taken later on.
-/
example :
    let source :=
      "struct A \x7b a: u8, " ++
        "#[node(rename = \"b\", rename = \"c\" skip)] b: u8, " ++
        "#[node(rename = \"a\")] c: u8 \x7d"
    (Declared.ofText? source).map (fun d =>
        match ofDeclared d with
        | .ok _ => none
        | .error e => some e) =
      some (some .renamedTwice) := by
  decide +kernel

/-
  Entries may stand in brackets of any kind.  Without a single
  parenthesis in its text, a struct is derivable and a field
  of it has the name that it is given.
-/
theorem ofDeclared_braced :
    let source :=
      "struct A \x7b " ++
        "#[node\x7brename = \"x\"\x7d] a: u8, b: u8 \x7d"
    '(' ∉ source.toList ∧
      ∃ d s,
        Declared.ofText? source = some d ∧
          ofDeclared d = .ok s ∧
            s.fields = [⟨"a", "x"⟩, ⟨"b", "b"⟩] := by
  intro source
  have hRead :
      (Declared.ofText? source).bind
        (fun d => (ofDeclared d).toOption.map fields) =
          some [⟨"a", "x"⟩, ⟨"b", "b"⟩] := by
    decide +kernel
  rcases Option.bind_eq_some_iff.mp hRead with
    ⟨d, hText, hFields⟩
  rcases Option.map_eq_some_iff.mp hFields with
    ⟨s, hGiven, hShown⟩
  refine ⟨by decide +kernel, d, s, hText, ?_, hShown⟩
  cases hOutcome : ofDeclared d with
  | error e => simp [hOutcome, Except.toOption] at hGiven
  | ok other =>
      rw [hOutcome] at hGiven
      exact congrArg Except.ok (Option.some.inj hGiven)

end NodeStruct

end TreePath
