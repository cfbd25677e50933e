import TreePath.Decimal.Layout
import TreePath.Text.Quoted
import TreePath.Tree.Entries

/-
  This file defines documents, the trees of null, truth
  values, numbers, texts, arrays and objects, and their two
  written forms.

  Key definitions include:
    * `Json.Number`
    * `Json`
    * `Json.inspect`
    * `Json.render`
-/

namespace TreePath

------------------------------------------------------------
-- Documents
------------------------------------------------------------

/- A whole number, or the bits of a double. -/
inductive Json.Number where
| whole (n : Int)
| real (bits : UInt64)
deriving DecidableEq, Repr

/- The members of an object are kept in order of name. -/
inductive Json where
| null
| bool (b : Bool)
| number (n : Json.Number)
| text (s : String)
| array (items : List Json)
| object (members : List (String × Json))

namespace Json

/- A number in digits. -/
def Number.render : Number → String
| .whole n => toString n
| .real bits =>
    Decimal.Layout.document.render Decimal.double bits.toNat

/- A whole number as a document. -/
def ofNat
    (n : Nat) : Json :=
  .number (.whole n)

/- A document, or null in its absence. -/
def ofOption : Option Json → Json
| none => .null
| some j => j

/- An object with the given members. -/
def ofMembers
    (members : List (String × Json)) : Json :=
  .object (Entries.ofList members)

------------------------------------------------------------
-- Inspection
------------------------------------------------------------

/- Texts between brackets, with commas. -/
def listText
    (start : String)
    (texts : List String)
    (stop : String) : String :=
  start ++ String.intercalate ", " texts ++ stop

mutual

/- A document that shows the case of every part. -/
def inspect : Json → String
| .null => "Null"
| .bool b => "Bool(" ++ toString b ++ ")"
| .number n => "Number(" ++ n.render ++ ")"
| .text s => "String(" ++ Quoted.text s ++ ")"
| .array items =>
    listText "Array [" (inspectItems items) "]"
| .object members =>
    listText "Object \x7b" (inspectMembers members) "\x7d"

/- The texts of items, in order. -/
def inspectItems : List Json → List String
| [] => []
| item :: items => item.inspect :: inspectItems items

/- The texts of members, each behind its name. -/
def inspectMembers : List (String × Json) → List String
| [] => []
| (name, item) :: members =>
    (Quoted.text name ++ ": " ++ item.inspect)
      :: inspectMembers members

end

------------------------------------------------------------
-- Document Text
------------------------------------------------------------

mutual

/- A document without blanks. -/
def render : Json → String
| .null => "null"
| .bool b => toString b
| .number n => n.render
| .text s => Quoted.document s
| .array items =>
    "[" ++ String.intercalate "," (renderItems items) ++ "]"
| .object members =>
    "\x7b" ++ String.intercalate "," (renderMembers members)
      ++ "\x7d"

/- Items as text. -/
def renderItems : List Json → List String
| [] => []
| item :: items => item.render :: renderItems items

/- Members as text. -/
def renderMembers : List (String × Json) → List String
| [] => []
| (name, item) :: members =>
    (Quoted.document name ++ ":" ++ item.render)
      :: renderMembers members

end

end Json

end TreePath
