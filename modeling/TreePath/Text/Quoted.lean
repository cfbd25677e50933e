import TreePath.Text.CodePoints
import TreePath.Text.HiddenRanges

/-
  This file defines the quoting of texts and characters for
  inspection, and of texts in documents.

  Key definitions include:
    * `Quoted.isHidden`
    * `Quoted.text`
    * `Quoted.character`
    * `Quoted.document`
-/

namespace TreePath

namespace Quoted

------------------------------------------------------------
-- Hidden Characters
------------------------------------------------------------

/- The characters that cannot be seen on their own; none of
   them lies between the blank and the tilde. -/
def isHidden
    (c : Char) : Bool :=
  !(0x20 ≤ c.toNat && c.toNat < 0x7f) &&
    CodePoints.contains hiddenRanges c

/- A character by its number in braces, in base sixteen. -/
def braced
    (c : Char) : List Char :=
  ['\\', 'u', '\x7b'] ++ Nat.toDigits 16 c.toNat ++ ['\x7d']

------------------------------------------------------------
-- Inspection
------------------------------------------------------------

/-
  Escape one character between the given quotes.  The other
  kind of quote stays; so does every character that can be
  seen.
-/
def escape
    (quote : Char)
    (c : Char) : List Char :=
  if c = quote ∨ c = '\\' then ['\\', c]
  else if c = '\n' then ['\\', 'n']
  else if c = '\r' then ['\\', 'r']
  else if c = '\t' then ['\\', 't']
  else if c = '\x00' then ['\\', '0']
  else if isHidden c then braced c
  else [c]

/- A text in double quotes. -/
def text
    (s : String) : String :=
  String.ofList
    ('"' :: (s.toList.flatMap (escape '"') ++ ['"']))

/- A character in single quotes. -/
def character
    (c : Char) : String :=
  String.ofList ('\'' :: (escape '\'' c ++ ['\'']))

------------------------------------------------------------
-- Documents
------------------------------------------------------------

/- The four digits of a number below 65536. -/
def fourDigits
    (n : Nat) : List Char :=
  let digits := Nat.toDigits 16 n
  List.replicate (4 - digits.length) '0' ++ digits

/- Escape one character of a text in a document. -/
def documentEscape
    (c : Char) : List Char :=
  if c = '"' ∨ c = '\\' then ['\\', c]
  else if c = '\n' then ['\\', 'n']
  else if c = '\r' then ['\\', 'r']
  else if c = '\t' then ['\\', 't']
  else if c.toNat < 0x20 then
    ['\\', 'u'] ++ fourDigits c.toNat
  else [c]

/- A text as a document quotes it. -/
def document
    (s : String) : String :=
  String.ofList
    ('"' :: (s.toList.flatMap documentEscape ++ ['"']))

end Quoted

end TreePath
