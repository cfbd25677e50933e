import TreePath.Tree.Value

/-
  This file defines the text of a value for inspection.

  Key definitions include:
    * `Scalar.inspect`
    * `EntryOrder`
    * `Value.inspect`
    * `Value.inspectOption`
-/

namespace TreePath

------------------------------------------------------------
-- Leaves
------------------------------------------------------------

namespace Scalar

/- The text of a leaf. -/
def inspect : Scalar → String
| .bool b => toString b
| .char c => Quoted.character c
| .unit => "()"
| .integer _ n => toString n
| .single bits =>
    Decimal.Layout.exact.render Decimal.single bits.toNat
| .double bits =>
    Decimal.Layout.exact.render Decimal.double bits.toNat
| .string s => Quoted.text s
| .literal s => Quoted.text s
| .custom _ (some text) => text
| .custom typeName none => typeName ++ "(..)"

end Scalar

------------------------------------------------------------
-- Values
------------------------------------------------------------

/-
  The order in which dictionaries that hash their names show
  their entries.  It depends on a seed and on the writes that
  made them, of which values keep no trace, so that any order
  of the texts may be given.
-/
class EntryOrder where
  arrange : List String → List String
  perm : ∀ texts, (arrange texts).Perm texts

/- If none is given, names are shown in order. -/
instance (priority := low) EntryOrder.byName :
    EntryOrder where
  arrange texts := texts
  perm texts := .refl texts

/- The texts of entries as a dictionary shows them. -/
def DictionaryKind.shown
    [EntryOrder]
    (kind : DictionaryKind)
    (texts : List String) : List String :=
  match kind with
  | .ordered => texts
  | .hashed | .fixedHash => EntryOrder.arrange texts

/- Whatever the order, all entries are shown. -/
theorem DictionaryKind.shown_perm
    [EntryOrder]
    (kind : DictionaryKind)
    (texts : List String) :
    (kind.shown texts).Perm texts := by
  cases kind with
  | ordered => exact .refl texts
  | hashed => exact EntryOrder.perm texts
  | fixedHash => exact EntryOrder.perm texts

namespace Value

variable [EntryOrder]

/- Texts in brackets. -/
def bracketed
    (texts : List String) : String :=
  "[" ++ String.intercalate ", " texts ++ "]"

/- Texts in braces. -/
def braced
    (texts : List String) : String :=
  "\x7b" ++ String.intercalate ", " texts ++ "\x7d"

/- A label in front of texts in braces, if there are any. -/
def labelled
    (label : String)
    (texts : List String) : String :=
  if texts = [] then label
  else
    label ++ " \x7b " ++ String.intercalate ", " texts
      ++ " \x7d"

mutual

/-
  The text of a value.  Hidden fields are left out; an object
  shows its entries behind its attributes, if it has any.
-/
def inspect : Value → String
| .scalar s => s.inspect
| .option _ none => "None"
| .option _ (some v) => "Some(" ++ v.inspect ++ ")"
| .sequence _ _ items => bracketed (inspectItems items)
| .dictionary kind _ entries =>
    braced (kind.shown (inspectEntries entries))
| .json j => j.inspect
| .object ⟨items, names, _⟩ entries =>
    let shown :=
      match entries with
      | [] => []
      | _ => ["items: " ++ braced (inspectEntries entries)]
    labelled "DynamicObject"
      (List.zipWith (fun name text => name ++ ": " ++ text)
        names (inspectItems items) ++ shown)
| .record d fields =>
    labelled d.label (inspectFields d.fields fields)

/- The texts of items, in order. -/
def inspectItems : List Value → List String
| [] => []
| v :: vs => v.inspect :: inspectItems vs

/- The texts of entries, each behind its name. -/
def inspectEntries : List (String × Value) → List String
| [] => []
| (name, v) :: entries =>
    (Quoted.text name ++ ": " ++ v.inspect)
      :: inspectEntries entries

/- The texts of the visible fields. -/
def inspectFields :
    List (FieldDeclaration Shape) → List Value →
      List String
| f :: fs, v :: vs =>
    let later := inspectFields fs vs
    if f.hidden then later
    else (f.name ++ ": " ++ v.inspect) :: later
| _, _ => []

end

/- The text of a value that may be absent. -/
def inspectOption : Option Value → String
| none => "None"
| some v => "Some(" ++ v.inspect ++ ")"

end Value

end TreePath
