import TreePath.Derive.Entry

/-
  This file defines which items an implementation can be
  derived for, and what the implementation needs to know.

  Key definitions include:
    * `FieldSettings`
    * `FieldSettings.ofEntries`
    * `ShownField`
    * `NodeStruct`
    * `NodeStruct.ofDeclared`
-/

namespace TreePath

open Item

------------------------------------------------------------
-- Settings
------------------------------------------------------------

/- Whether a field is left out, and its other name. -/
structure FieldSettings where
  skipped : Bool
  renamed : Option String
deriving DecidableEq, Repr

namespace FieldSettings

/- A field as it is declared. -/
def plain : FieldSettings :=
  ⟨false, none⟩

/- Settings with an entry added to them. -/
def add
    (s : FieldSettings) :
    FieldEntry → Except DeriveError FieldSettings
| .skip => .ok { s with skipped := true }
| .rename name =>
    match s.renamed with
    | none => .ok { s with renamed := some name }
    | some _ => .error .renamedTwice

/- Settings with all entries added; the first thing that is
   wrong counts. -/
def addAll
    (s : FieldSettings) :
    List (Except DeriveError FieldEntry) →
      Except DeriveError FieldSettings
| [] => .ok s
| .error e :: _ => .error e
| .ok entry :: entries =>
    match s.add entry with
    | .error e => .error e
    | .ok s => s.addAll entries

/- The settings that entries make; a field that is left out
   has no other name. -/
def ofEntries
    (entries : List (Except DeriveError FieldEntry)) :
    Except DeriveError FieldSettings :=
  match plain.addAll entries with
  | .error e => .error e
  | .ok s =>
      if s.skipped && s.renamed.isSome then
        .error .renamedThoughSkipped
      else .ok s

end FieldSettings

------------------------------------------------------------
-- Fields
------------------------------------------------------------

/- A field under the name by which it is found. -/
structure ShownField where
  member : String
  name : String
deriving DecidableEq, Repr

/- A name without the sign that it is no reserved word. -/
def withoutSign
    (text : String) : String :=
  match text.toList with
  | 'r' :: '#' :: cs => String.ofList cs
  | _ => text

namespace ShownField

/- The field that is shown behind others, if one is. -/
def ofField
    (shown : List ShownField)
    (f : Field) : Except DeriveError (List ShownField) :=
  match FieldSettings.ofEntries
      (FieldEntry.ofAttributes f.attributes) with
  | .error e => .error e
  | .ok s =>
      if s.skipped then .ok []
      else
        let name := s.renamed.getD (withoutSign f.name)
        if shown.any (fun other => other.name == name) then
          .error (.nameTaken name)
        else .ok [⟨f.name, name⟩]

/- The fields that are shown behind others, in order. -/
def ofFields
    (shown : List ShownField) :
    List Field → Except DeriveError (List ShownField)
| [] => .ok shown
| f :: fields =>
    match ofField shown f with
    | .error e => .error e
    | .ok more => ofFields (shown ++ more) fields

end ShownField

------------------------------------------------------------
-- Items
------------------------------------------------------------

/-
  A struct with its parameters, whether it has entries by
  key, and the fields that it shows.
-/
structure NodeStruct where
  name : String
  generics : Generics
  keyed : Bool
  fields : List ShownField

namespace NodeStruct

/- Whether entries of an item mark it. -/
def keyedOf :
    List (Except DeriveError ItemEntry) →
      Except DeriveError Bool
| [] => .ok false
| .error e :: _ => .error e
| .ok .keyed :: entries => (keyedOf entries).map (fun _ => true)

/- The struct that an item is, unless something is wrong with
   its kind, its attributes or its fields, in this order. -/
def ofDeclared
    (d : Declared) : Except DeriveError NodeStruct := do
  match d.body with
  | .other => .error .noNamedFields
  | .fields fields =>
      let keyed ←
        keyedOf (ItemEntry.ofAttributes d.attributes)
      let shown ← ShownField.ofFields [] fields
      .ok ⟨d.name, d.generics, keyed, shown⟩

end NodeStruct

end TreePath
