import TreePath.Derive.NodeStruct
import TreePath.Proofs.Derive.EntryLists

/-
  Which fields can be followed and which of them are shown.
  Something is wrong with all others: with an entry, with two
  entries together, or with the name that they would have
  behind the fields in front of them.

  Key definitions include:
    * `FieldEntry.renames`
    * `GivenField`
    * `GivenField.shown`
    * `Item.Field.Wrong`

  Main statements:
    * `FieldSettings.addAll_map_ok`
    * `ShownField.ofFields_of_distinct`
    * `ShownField.ofFields_of_wrong`
    * `ShownField.distinct_or_wrong`
-/

------------------------------------------------------------
-- Settings
------------------------------------------------------------

namespace TreePath

open Item

namespace FieldEntry

/- The names that entries give. -/
def renames
    (entries : List FieldEntry) : List String :=
  entries.filterMap (fun entry =>
    match entry with
    | .skip => none
    | .rename name => some name)

@[simp] theorem renames_nil :
    renames [] = [] :=
  rfl

@[simp] theorem renames_skip
    (entries : List FieldEntry) :
    renames (.skip :: entries) = renames entries :=
  rfl

@[simp] theorem renames_rename
    (name : String)
    (entries : List FieldEntry) :
    renames (.rename name :: entries) =
      name :: renames entries :=
  rfl

end FieldEntry

open FieldEntry

namespace FieldSettings

/-
  Entries are added one after the other, until there is a
  second name.
-/
theorem addAll_map_ok
    (s : FieldSettings)
    (entries : List FieldEntry)
    (more : List (Except DeriveError FieldEntry)) :
    s.addAll (entries.map .ok ++ more) =
      if s.renamed.toList.length + (renames entries).length ≤ 1
      then
        addAll
          ⟨s.skipped || decide (.skip ∈ entries),
            s.renamed.or (renames entries).head?⟩ more
      else .error .renamedTwice := by
  induction entries generalizing s with
  | nil =>
      rcases s with ⟨skipped, renamed⟩
      cases renamed with
      | none => simp
      | some name => simp
  | cons entry entries ih =>
      rcases s with ⟨skipped, renamed⟩
      cases entry with
      | skip => simp [addAll, add, ih]
      | rename name =>
          cases renamed with
          | none => simp [addAll, add, ih, Nat.add_comm]
          | some earlier =>
              have hTwice :
                  ¬ 1 + ((renames entries).length + 1) ≤ 1 := by
                omega
              simp [addAll, add, hTwice]

variable
  {read : List (Except DeriveError FieldEntry)}
  {entries : List FieldEntry}

/- A second name counts before what is wrong behind it. -/
theorem ofEntries_of_twice
    {fault : Option DeriveError}
    (hYields : Yields read entries fault)
    (hTwice : 1 < (renames entries).length) :
    ofEntries read = .error .renamedTwice := by
  have hAdd
      (more : List (Except DeriveError FieldEntry)) :
      plain.addAll (entries.map .ok ++ more) =
        .error .renamedTwice := by
    rw [addAll_map_ok, if_neg]
    simpa [plain] using hTwice
  unfold ofEntries
  cases fault with
  | none =>
      have hRead := hAdd []
      rw [List.append_nil] at hRead
      rw [show read = entries.map .ok from hYields, hRead]
  | some e =>
      rcases hYields with ⟨more, rfl⟩
      rw [hAdd]

/- With one name at most, the first thing that is wrong
   counts. -/
theorem ofEntries_of_fault
    {e : DeriveError}
    (hYields : Yields read entries (some e))
    (hOnce : (renames entries).length ≤ 1) :
    ofEntries read = .error e := by
  rcases hYields with ⟨more, rfl⟩
  unfold ofEntries
  rw [addAll_map_ok, if_pos (by simpa [plain] using hOnce)]
  rfl

/- If nothing is, the entries must go together. -/
theorem ofEntries_of_none
    (hYields : Yields read entries none)
    (hOnce : (renames entries).length ≤ 1) :
    ofEntries read =
      if .skip ∈ entries ∧ renames entries ≠ [] then
        .error .renamedThoughSkipped
      else
        .ok ⟨decide (.skip ∈ entries),
          (renames entries).head?⟩ := by
  have hAdd := addAll_map_ok plain entries []
  rw [if_pos (by simpa [plain] using hOnce),
    List.append_nil] at hAdd
  rw [show read = entries.map .ok from hYields]
  unfold ofEntries
  rw [hAdd]
  simp [addAll, plain]

end FieldSettings

------------------------------------------------------------
-- Fields
------------------------------------------------------------

/- What the attributes of a field hold, all of them together,
   up to the first thing that is wrong. -/
def Item.Field.Holds
    (f : Field)
    (entries : List FieldEntry)
    (fault : Option DeriveError) : Prop :=
  AttributesHold FieldEntry.Names FieldEntry.Refuses
    f.attributes entries fault

/-
  A field whose attributes can be followed: nothing is wrong
  in them, they give one name at most, and none to a field
  that is left out.
-/
structure GivenField where
  field : Field
  entries : List FieldEntry
  holds : field.Holds entries none
  once : (renames entries).length ≤ 1
  apart : .skip ∈ entries → renames entries = []

/- The field is shown under the name that it is given or under
   its own, unless it is left out. -/
def GivenField.shown
    (g : GivenField) : Option ShownField :=
  if .skip ∈ g.entries then
    none
  else
    some
      ⟨g.field.name,
        (renames g.entries).head?.getD
          (withoutSign g.field.name)⟩

/-
  What is wrong with a field behind others: a second name, a
  fault of an entry, a name for a field that is left out, or a
  name that is taken.
-/
inductive Item.Field.Wrong
    (shown : List ShownField)
    (f : Field) : DeriveError → Prop
| renamedTwice
    {entries : List FieldEntry}
    {fault : Option DeriveError}
    (hHolds : f.Holds entries fault)
    (hTwice : 1 < (renames entries).length) :
    Wrong shown f .renamedTwice
| entry
    {entries : List FieldEntry}
    {e : DeriveError}
    (hHolds : f.Holds entries (some e))
    (hOnce : (renames entries).length ≤ 1) :
    Wrong shown f e
| renamedThoughSkipped
    {entries : List FieldEntry}
    (hHolds : f.Holds entries none)
    (hOnce : (renames entries).length ≤ 1)
    (hSkipped : .skip ∈ entries)
    (hRenamed : renames entries ≠ []) :
    Wrong shown f .renamedThoughSkipped
| nameTaken
    {g : GivenField}
    {s : ShownField}
    (hField : g.field = f)
    (hShown : g.shown = some s)
    (hTaken : s.name ∈ shown.map ShownField.name) :
    Wrong shown f (.nameTaken s.name)

/- What attributes hold is what is read from them. -/
theorem Item.Field.Holds.yields
    {f : Field}
    {entries : List FieldEntry}
    {fault : Option DeriveError}
    (hHolds : f.Holds entries fault) :
    Yields (FieldEntry.ofAttributes f.attributes) entries
      fault :=
  FieldEntry.reading.yields_of_attributesHold hHolds

namespace ShownField

/- The settings of a field that can be followed. -/
theorem ofEntries_given
    (g : GivenField) :
    FieldSettings.ofEntries
        (FieldEntry.ofAttributes g.field.attributes) =
      .ok ⟨decide (.skip ∈ g.entries),
        (renames g.entries).head?⟩ := by
  rw [FieldSettings.ofEntries_of_none g.holds.yields g.once,
    if_neg]
  rintro ⟨hSkipped, hRenamed⟩
  exact hRenamed (g.apart hSkipped)

/- Such a field is shown, if it is not left out and its name
   is free. -/
theorem ofField_given
    (shown : List ShownField)
    (g : GivenField) :
    ofField shown g.field =
      match g.shown with
      | none => .ok []
      | some s =>
          if s.name ∈ shown.map ShownField.name then
            .error (.nameTaken s.name)
          else .ok [s] := by
  unfold ofField GivenField.shown
  rw [ofEntries_given]
  by_cases hSkipped : .skip ∈ g.entries
  · simp [hSkipped]
  · simp [hSkipped]

/- A field that can be followed is shown if its name is
   free. -/
theorem ofField_of_free
    {shown : List ShownField}
    {g : GivenField}
    (hFree :
      ∀ s ∈ g.shown, s.name ∉ shown.map ShownField.name) :
    ofField shown g.field = .ok g.shown.toList := by
  rw [ofField_given]
  cases hShown : g.shown with
  | none => rfl
  | some s => exact if_neg (hFree s hShown)

/- What is wrong with a field is told of it. -/
theorem ofField_of_wrong
    {shown : List ShownField}
    {f : Field}
    {e : DeriveError}
    (hWrong : f.Wrong shown e) :
    ofField shown f = .error e := by
  cases hWrong with
  | renamedTwice hHolds hTwice =>
      unfold ofField
      rw [FieldSettings.ofEntries_of_twice hHolds.yields hTwice]
  | entry hHolds hOnce =>
      unfold ofField
      rw [FieldSettings.ofEntries_of_fault hHolds.yields hOnce]
  | renamedThoughSkipped hHolds hOnce hSkipped hRenamed =>
      unfold ofField
      rw [FieldSettings.ofEntries_of_none hHolds.yields hOnce,
        if_pos ⟨hSkipped, hRenamed⟩]
  | @nameTaken g s hField hShown hTaken =>
      subst hField
      rw [ofField_given, hShown]
      exact if_pos hTaken

/- A field can be followed and its name is free, or something
   is wrong with it. -/
theorem free_or_wrong
    (shown : List ShownField)
    (f : Field) :
    (∃ g : GivenField,
      g.field = f ∧
        ∀ s ∈ g.shown,
          s.name ∉ shown.map ShownField.name) ∨
      ∃ e, f.Wrong shown e := by
  rcases
      FieldEntry.reading.exists_attributesHold f.attributes
    with ⟨entries, fault, hHolds⟩
  by_cases hOnce : (renames entries).length ≤ 1
  · cases fault with
    | some e => exact .inr ⟨e, .entry hHolds hOnce⟩
    | none =>
        by_cases hApart : .skip ∈ entries → renames entries = []
        · let g : GivenField :=
            ⟨f, entries, hHolds, hOnce, hApart⟩
          have hField : g.field = f := rfl
          cases hShown : g.shown with
          | none => exact .inl ⟨g, rfl, by simp [hShown]⟩
          | some s =>
              by_cases hTaken :
                  s.name ∈ shown.map ShownField.name
              · exact .inr ⟨_, .nameTaken hField hShown hTaken⟩
              · refine .inl ⟨g, rfl, ?_⟩
                rw [hShown]
                rintro _ ⟨⟩
                exact hTaken
        · rcases Classical.not_imp.mp hApart with ⟨hSkipped, hRenamed⟩
          exact
            .inr ⟨_, .renamedThoughSkipped hHolds hOnce
              hSkipped hRenamed⟩
  · exact
      .inr ⟨_, .renamedTwice hHolds (Nat.lt_of_not_le hOnce)⟩

/- Fields are taken in one after the other. -/
theorem ofFields_append
    (shown : List ShownField)
    (front rest : List Field) :
    ofFields shown (front ++ rest) =
      match ofFields shown front with
      | .error e => .error e
      | .ok more => ofFields more rest := by
  induction front generalizing shown with
  | nil => rfl
  | cons f front ih =>
      simp only [List.cons_append, ofFields]
      cases ofField shown f with
      | error e => rfl
      | ok more => exact ih (shown ++ more)

variable {given : List GivenField}

/- Fields with distinct names are shown behind each other. -/
theorem ofFields_of_distinct
    {shown : List ShownField}
    (hDistinct :
      ((shown ++ given.filterMap GivenField.shown).map
        ShownField.name).Nodup) :
    ofFields shown (given.map GivenField.field) =
      .ok (shown ++ given.filterMap GivenField.shown) := by
  induction given generalizing shown with
  | nil => simp [ofFields]
  | cons g given ih =>
      have hFirst :
          (g :: given).filterMap GivenField.shown =
            g.shown.toList ++
              given.filterMap GivenField.shown := by
        cases hShown : g.shown with
        | none => simp [hShown]
        | some s => simp [hShown]
      have hFree :
          ∀ s ∈ g.shown,
            s.name ∉ shown.map ShownField.name := by
        intro s hShown hTaken
        rw [hFirst, hShown, List.map_append,
          List.nodup_append] at hDistinct
        exact hDistinct.2.2 s.name hTaken s.name (by simp) rfl
      rw [hFirst, ← List.append_assoc] at hDistinct ⊢
      rw [List.map_cons, ofFields, ofField_of_free hFree]
      exact ih hDistinct

/- The first field with which something is wrong counts. -/
theorem ofFields_of_wrong
    {f : Field}
    {e : DeriveError}
    (hDistinct :
      ((given.filterMap GivenField.shown).map
        ShownField.name).Nodup)
    (hWrong : f.Wrong (given.filterMap GivenField.shown) e)
    (after : List Field) :
    ofFields [] (given.map GivenField.field ++ f :: after) =
      .error e := by
  have hShown :
      ofFields [] (given.map GivenField.field) =
        .ok (given.filterMap GivenField.shown) :=
    ofFields_of_distinct hDistinct
  rw [ofFields_append, hShown]
  simp only [ofFields, ofField_of_wrong hWrong]

/-
  All fields behind some others can be followed, with names
  that are distinct, or there is a first one with which
  something is wrong.
-/
theorem distinct_or_wrong
    (given : List GivenField)
    (hDistinct :
      ((given.filterMap GivenField.shown).map
        ShownField.name).Nodup)
    (fields : List Field) :
    (∃ all : List GivenField,
      all.map GivenField.field =
          given.map GivenField.field ++ fields ∧
        ((all.filterMap GivenField.shown).map
          ShownField.name).Nodup) ∨
      ∃ (before : List GivenField) (f : Field)
          (after : List Field) (e : DeriveError),
        before.map GivenField.field ++ f :: after =
            given.map GivenField.field ++ fields ∧
          ((before.filterMap GivenField.shown).map
            ShownField.name).Nodup ∧
            f.Wrong (before.filterMap GivenField.shown) e := by
  induction fields generalizing given with
  | nil => exact .inl ⟨given, by simp, hDistinct⟩
  | cons f fields ih =>
      rcases
          free_or_wrong (given.filterMap GivenField.shown) f
        with ⟨g, hField, hFree⟩ | ⟨e, hWrong⟩
      · have hMore :
            (((given ++ [g]).filterMap GivenField.shown).map
              ShownField.name).Nodup := by
          cases hShown : g.shown with
          | none => simpa [hShown] using hDistinct
          | some s =>
              have hNew := hFree s hShown
              have hLast :
                  [g].filterMap GivenField.shown = [s] := by
                simp [hShown]
              rw [List.filterMap_append, hLast,
                List.map_append, List.nodup_append]
              refine ⟨hDistinct, by simp, ?_⟩
              rintro name hName _ hSame rfl
              rw [List.map_singleton,
                List.mem_singleton] at hSame
              exact hNew (hSame ▸ hName)
        have hBehind :
            (given ++ [g]).map GivenField.field ++ fields =
              given.map GivenField.field ++ f :: fields := by
          simp [hField]
        rw [← hBehind]
        exact ih _ hMore
      · exact .inr ⟨given, f, fields, e, rfl, hDistinct, hWrong⟩

end ShownField

end TreePath
