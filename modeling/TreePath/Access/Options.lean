import TreePath.Grammar.Error
import TreePath.Json.Reader

/-
  This file defines the settings of an accessor and their
  form in a document.

  Key definitions include:
    * `AccessOptions`
    * `AccessOptions.ofText?`
    * `AccessOptions.render`
-/

namespace TreePath

------------------------------------------------------------
-- Settings
------------------------------------------------------------

/-
  Strict accessors fail where others fall back to a default.
  The bracket mode says how path texts are read.
-/
structure AccessOptions where
  strict : Bool
  brackets : BracketMode
deriving DecidableEq, Repr

namespace AccessOptions

/- The settings where none are given. -/
def standard : AccessOptions :=
  ⟨false, .strict⟩

------------------------------------------------------------
-- Reading
------------------------------------------------------------

/- The mode that a word names. -/
def modeOfWord? : String → Option BracketMode
| "strict" => some .strict
| "loose" => some .loose
| _ => none

/- A mode is a word, or the one member of an object, with
   null for its value. -/
def mode? : Json.Written → Option BracketMode
| .text pieces => (Json.textOf? pieces).bind modeOfWord?
| .object [(pieces, .null)] =>
    (Json.textOf? pieces).bind modeOfWord?
| _ => none

/- A truth value. -/
def switch? : Json.Written → Option Bool
| .bool b => some b
| _ => none

/- The members read so far. -/
structure Draft where
  strict : Option Bool
  brackets : Option BracketMode

/-
  Take in one member.  A setting may not be given twice;
  other members are skipped.
-/
def Draft.add?
    (draft : Draft)
    (name : String)
    (value : Json.Written) : Option Draft :=
  match name, draft with
  | "strict", ⟨none, brackets⟩ =>
      (switch? value).map (fun b => ⟨some b, brackets⟩)
  | "brackets", ⟨strict, none⟩ =>
      (mode? value).map (fun m => ⟨strict, some m⟩)
  | "strict", _ => none
  | "brackets", _ => none
  | _, _ => some draft

/- Take in members in order. -/
def Draft.addAll? :
    Draft → List (List Json.Piece × Json.Written) →
      Option Draft
| draft, [] => some draft
| draft, (pieces, value) :: members =>
    match Json.textOf? pieces with
    | none => none
    | some name =>
        match draft.add? name value with
        | none => none
        | some draft => draft.addAll? members

/- The settings of a draft. -/
def Draft.finish
    (draft : Draft) : AccessOptions :=
  ⟨draft.strict.getD standard.strict,
    draft.brackets.getD standard.brackets⟩

/-
  Settings are an object, or an array of their values in
  order; those that are left out are standard.
-/
def ofWritten? : Json.Written → Option AccessOptions
| .object members =>
    (Draft.addAll? ⟨none, none⟩ members).map Draft.finish
| .array [] => some standard
| .array [s] =>
    (switch? s).map (fun b => ⟨b, standard.brackets⟩)
| .array [s, m] =>
    match switch? s, mode? m with
    | some b, some mode => some ⟨b, mode⟩
    | _, _ => none
| _ => none

/- Read settings from the text of a document. -/
def ofText?
    (source : String) : Option AccessOptions :=
  (Json.Written.ofText? source).bind ofWritten?

------------------------------------------------------------
-- Writing
------------------------------------------------------------

/- The word for a mode. -/
def modeWord : BracketMode → String
| .strict => "strict"
| .loose => "loose"

/- Settings as the text of a document. -/
def render
    (options : AccessOptions) : String :=
  "\x7b\"strict\":" ++ toString options.strict ++
    ",\"brackets\":" ++
    Quoted.document (modeWord options.brackets) ++ "\x7d"

end AccessOptions

end TreePath
