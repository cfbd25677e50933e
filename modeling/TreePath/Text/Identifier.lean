import TreePath.Text.CodePoints
import TreePath.Text.IdentifierRanges

/-
  This file defines identifiers, and those of them that are
  reserved words.

  Key definitions include:
    * `Identifier.isStart`
    * `Identifier.isContinue`
    * `Identifier.isLetterLike`
    * `Identifier.isIdentifier`
    * `Identifier.keywords`
    * `Identifier.isSegment`
-/

namespace TreePath

namespace Identifier

------------------------------------------------------------
-- Characters
------------------------------------------------------------

/- Letters and the underscore begin an identifier. -/
def isStart
    (c : Char) : Bool :=
  c.isAlpha || c == '_' || CodePoints.contains startRanges c

/- Digits, among others, may follow. -/
def isContinue
    (c : Char) : Bool :=
  isStart c || c.isDigit ||
    CodePoints.contains continueRanges c

/- Whether a character of an identifier is a letter, a digit
   or the underscore. -/
def isLetterLike
    (c : Char) : Bool :=
  isContinue c && !CodePoints.contains joiningRanges c

/- A text that is an identifier or a reserved word. -/
def isIdentifier : List Char → Bool
| [] => false
| c :: cs => isStart c && cs.all isContinue

------------------------------------------------------------
-- Reserved Words
------------------------------------------------------------

/- The words that are not names.  The underscore is one. -/
def keywords : List String :=
  [ "_", "abstract", "as", "async", "await", "become", "box",
    "break", "const", "continue", "crate", "do", "dyn",
    "else", "enum", "extern", "false", "final", "fn", "for",
    "if", "impl", "in", "let", "loop", "macro", "match",
    "mod", "move", "mut", "override", "priv", "pub", "ref",
    "return", "Self", "self", "static", "struct", "super",
    "trait", "true", "try", "type", "typeof", "unsafe",
    "unsized", "use", "virtual", "where", "while", "yield" ]

/- The reserved words that may stand in a path. -/
def pathKeywords : List String :=
  ["self", "Self", "super", "crate", "try"]

/- The reserved words that no mark turns into names. -/
def unescapable : List String :=
  ["_", "self", "Self", "super", "crate"]

/- A name: an identifier that is not reserved. -/
def isName
    (text : String) : Bool :=
  isIdentifier text.toList && !keywords.contains text

/- A marked name; the mark turns reserved words into names. -/
def isRawName
    (text : String) : Bool :=
  match text.toList with
  | 'r' :: '#' :: cs =>
      isIdentifier cs &&
        !unescapable.contains (String.ofList cs)
  | _ => false

/- A text that may stand between the colons of a path. -/
def isSegment
    (text : String) : Bool :=
  isName text || pathKeywords.contains text ||
    isRawName text

end Identifier

end TreePath
