import TreePath.Tree.Entries

/-
  This file defines tables and the rules by which they grow.
  A table is opened by a header once, or grows by dotted keys
  or by the headers of its parts.

  Key definitions include:
    * `Toml.Origin`
    * `Toml.Node`
    * `Toml.Statement`
    * `Toml.assign?`
    * `Toml.run?`
-/

namespace TreePath

namespace Toml

------------------------------------------------------------
-- Tables
------------------------------------------------------------

/-
  A table was opened by its own header, came up in the header
  of a part, or came up in a dotted key.
-/
inductive Origin where
| opened
| passed
| dotted
deriving DecidableEq, Repr

/-
  What a name stands for: a value, a table, or a list of
  tables.  Values are not kept.
-/
inductive Node where
| value
| table (origin : Origin) (entries : List (String × Node))
| tables
    (earlier : Nat)
    (last : List (String × Node))

/- The contents of a table. -/
abbrev Contents :=
  List (String × Node)

/- The lines of a configuration that have a meaning. -/
inductive Statement where
| assign (key : List String)
| openTable (key : List String)
| openElement (key : List String)
deriving DecidableEq, Repr

------------------------------------------------------------
-- Growth
------------------------------------------------------------

/-
  Change the table at the end of a path of headers.  Tables
  on the way come into being; of a list of tables the path
  enters the last.
-/
def atHeader?
    (change : Contents → Option Contents) :
    List String → Contents → Option Contents
| [], entries => change entries
| name :: path, entries =>
    match Entries.find? name entries with
    | none =>
        (atHeader? change path []).map (fun inner =>
          Entries.insert name
            (.table .passed inner) entries)
    | some .value => none
    | some (.table origin inner) =>
        (atHeader? change path inner).map (fun inner =>
          Entries.insert name
            (.table origin inner) entries)
    | some (.tables earlier last) =>
        (atHeader? change path last).map (fun last =>
          Entries.insert name
            (.tables earlier last) entries)

/- Give a new name a value. -/
def assignName?
    (name : String)
    (entries : Contents) : Option Contents :=
  match Entries.find? name entries with
  | none => some (Entries.insert name .value entries)
  | some _ => none

/-
  Give a dotted key a value.  Tables opened by a header are
  closed to dotted keys, and the table that takes the last
  part of the key must have come up in a dotted key.  Of a
  list of tables the key enters the last.
-/
def assign? : List String → Contents → Option Contents
| [], _ => none
| [name], entries => assignName? name entries
| name :: path, entries =>
    match Entries.find? name entries with
    | none =>
        (assign? path []).map (fun inner =>
          Entries.insert name
            (.table .dotted inner) entries)
    | some (.table origin inner) =>
        if origin = .opened ∨
            (path.length = 1 ∧ origin ≠ .dotted) then
          none
        else
          (assign? path inner).map (fun inner =>
            Entries.insert name
              (.table origin inner) entries)
    | some (.tables earlier last) =>
        if path.length = 1 then none
        else
          (assign? path last).map (fun last =>
            Entries.insert name
              (.tables earlier last) entries)
    | some .value => none

/- Open a table that no header has opened. -/
def openTable?
    (name : String)
    (entries : Contents) : Option Contents :=
  match Entries.find? name entries with
  | none =>
      some (Entries.insert name
        (.table .opened []) entries)
  | some (.table .passed inner) =>
      some (Entries.insert name
        (.table .opened inner) entries)
  | some _ => none

/- Open one more table of a list. -/
def openElement?
    (name : String)
    (entries : Contents) : Option Contents :=
  match Entries.find? name entries with
  | none =>
      some (Entries.insert name
        (.tables 0 []) entries)
  | some (.tables earlier _) =>
      some (Entries.insert name
        (.tables (earlier + 1) []) entries)
  | some _ => none

------------------------------------------------------------
-- Statements
------------------------------------------------------------

/- The root table, and the header above the current line. -/
structure Outline where
  root : Contents
  header : List String

/- Open something at the end of a header. -/
def Outline.open?
    (o : Outline)
    (key : List String)
    (opening : String → Contents → Option Contents) :
    Option Outline :=
  match key.getLast? with
  | none => none
  | some name =>
      (atHeader? (opening name) key.dropLast o.root).map
        (fun root => ⟨root, key⟩)

/- Take in one statement. -/
def Outline.step?
    (o : Outline) : Statement → Option Outline
| .assign key =>
    (atHeader? (assign? key) o.header o.root).map
      (fun root => { o with root := root })
| .openTable key => o.open? key openTable?
| .openElement key => o.open? key openElement?

/- The root table after all statements. -/
def run?
    (statements : List Statement) : Option Contents :=
  (statements.foldlM Outline.step? ⟨[], []⟩).map
    Outline.root

end Toml

end TreePath
