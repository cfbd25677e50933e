import TreePath.Text.Identifier
import TreePath.Text.Quoted

/-
  This file defines the tokens of program texts and how they
  are written one after the other.

  Key definitions include:
    * `Item.Delimiter`
    * `Item.Literal`
    * `Item.Literal.broken`
    * `Item.Literal.ofText`
    * `Item.Token`
    * `Item.TokenTree`
    * `Item.gap`
    * `Item.glueAll`
    * `Item.TokenTree.texts`
-/

namespace TreePath

namespace Item

------------------------------------------------------------
-- Tokens
------------------------------------------------------------

/- The brackets that enclose a group of tokens. -/
inductive Delimiter where
| paren
| bracket
| brace
deriving DecidableEq, Repr

namespace Delimiter

/- The opening bracket. -/
def opening : Delimiter → Char
| .paren => '('
| .bracket => '['
| .brace => '\x7b'

/- The closing bracket. -/
def closing : Delimiter → Char
| .paren => ')'
| .bracket => ']'
| .brace => '\x7d'

end Delimiter

/-
  A literal as it is written; a plain text literal also has
  the text that it stands for.
-/
structure Literal where
  written : String
  value : Option String
deriving DecidableEq, Repr

namespace Literal

/-
  Escape the characters of a text literal.  An escaped null
  must not run into a digit behind it.
-/
def escape : List Char → List Char
| [] => []
| '\x00' :: cs =>
    let digit :=
      match cs with
      | c :: _ => '0' ≤ c && c ≤ '7'
      | [] => false
    (if digit then ['\\', 'x', '0', '0'] else ['\\', '0'])
      ++ escape cs
| c :: cs => Quoted.escape '"' c ++ escape cs

/- The literal that stands for a broken one. -/
def broken : Literal :=
  ⟨"(/*ERROR*/)", none⟩

/- Whether a literal is a number. -/
def isNumber
    (l : Literal) : Bool :=
  (l.written.toList.head?.map Char.isDigit).getD false

/- The literal of a text. -/
def ofText
    (text : String) : Literal :=
  ⟨String.ofList ('"' :: (escape text.toList ++ ['"'])),
    some text⟩

end Literal

/-
  A token is a name or reserved word, a mark, a literal or a
  bracket.  A mark is joint if another mark follows at once.
-/
inductive Token where
| name (text : String)
| mark (c : Char) (joint : Bool)
| literal (l : Literal)
| opening (d : Delimiter)
| closing (d : Delimiter)
deriving DecidableEq, Repr

/- Tokens, with the brackets matched. -/
inductive TokenTree where
| name (text : String)
| mark (c : Char) (joint : Bool)
| literal (l : Literal)
| group (d : Delimiter) (content : List TokenTree)

/- A sequence of matched tokens. -/
abbrev Tokens :=
  List TokenTree

------------------------------------------------------------
-- Writing
------------------------------------------------------------

/-
  Whether a text ends in such a way that a name or a literal
  right behind it needs a blank: in a letter, a digit, an
  underscore or a quote.
-/
def endsOpen
    (text : List Char) : Bool :=
  match text.getLast? with
  | some c => Identifier.isLetterLike c || c == '"'
  | none => false

/- Whether a text begins with a name or a literal, which may
   be a number below zero or the broken one. -/
def beginsWord : List Char → Bool
| '\'' :: cs => cs.contains '\''
| '-' :: c :: _ => c.isDigit
| '(' :: '/' :: _ => true
| c :: _ => Identifier.isContinue c || c == '"'
| [] => false

/- What stands between a text and the one behind it. -/
def gap
    (text next : String) : String :=
  if endsOpen text.toList && beginsWord next.toList then " "
  else ""

/- Write texts one behind the other. -/
def glueAll : List String → String
| [] => ""
| [text] => text
| text :: next :: texts =>
    text ++ gap text next ++ glueAll (next :: texts)

mutual

/- The texts of the tokens of a tree. -/
def TokenTree.texts : TokenTree → List String
| .name text => [text]
| .mark c _ => [String.singleton c]
| .literal l => [l.written]
| .group d content =>
    String.singleton d.opening ::
      (textsOf content ++ [String.singleton d.closing])

/- The texts of the tokens of a sequence. -/
def textsOf : List TokenTree → List String
| [] => []
| tree :: trees => tree.texts ++ textsOf trees

end

end Item

end TreePath
