import TreePath.Toml.Scalar
import TreePath.Toml.Table
import TreePath.Toml.Text

/-
  This file defines the reading of a whole configuration and
  the names that a table of it lists.

  Key definitions include:
    * `Toml.skipValue?`
    * `Toml.statements?`
    * `Toml.root?`
    * `Toml.tableNames`
-/

namespace TreePath

namespace Toml

------------------------------------------------------------
-- Words
------------------------------------------------------------

/- The characters of a word. -/
def isWordChar
    (c : Char) : Bool :=
  c.isAlphanum || c == '_' || c == '+' || c == '-' ||
    c == '.' || c == ':'

/-
  Take a word.  A date and a time with one blank between them
  are a single word.
-/
def word
    (cs : List Char) : List Char × List Char :=
  let first := cs.takeWhile isWordChar
  let rest := cs.dropWhile isWordChar
  match rest with
  | ' ' :: d :: more =>
      if isDate first && d.isDigit then
        (first ++ ' ' :: (d :: more).takeWhile isWordChar,
          (d :: more).dropWhile isWordChar)
      else
        (first, rest)
  | _ => (first, rest)

/- Skip a word that is a value. -/
def skipWord?
    (cs : List Char) : Option (List Char) :=
  let (w, rest) := word cs
  if isScalar w then some rest else none

------------------------------------------------------------
-- Values
------------------------------------------------------------

mutual

/-
  Skip a value that so many others enclose.  Every character
  is worth two calls, so fuel of twice the length of the text
  never runs out.
-/
def skipValue? : Nat → Nat → List Char → Option (List Char)
| 0, _, _ => none
| fuel + 1, depth, cs =>
    match cs with
    | '"' :: '"' :: '"' :: rest => skipBlock '"' .text rest
    | '\'' :: '\'' :: '\'' :: rest =>
        skipBlock '\'' .text rest
    | '"' :: rest => (basicText? rest).map Prod.snd
    | '\'' :: rest => (literalText? rest).map Prod.snd
    | '[' :: rest =>
        if depth < depthLimit then
          skipItems? fuel (depth + 1) rest
        else none
    | '\x7b' :: rest =>
        if depth < depthLimit then
          skipMembers? fuel (depth + 1) [] rest
        else none
    | cs => skipWord? cs

/- Skip the items of a list, which may end in a comma. -/
def skipItems? : Nat → Nat → List Char → Option (List Char)
| 0, _, _ => none
| fuel + 1, depth, cs =>
    match skipLines cs.length cs with
    | ']' :: rest => some rest
    | cs =>
        match skipValue? fuel depth cs with
        | none => none
        | some rest =>
            match skipLines rest.length rest with
            | ']' :: rest => some rest
            | ',' :: rest => skipItems? fuel depth rest
            | _ => none

/-
  Skip the members of a table that is a value; they may end
  in a comma.  Their keys obey the rules of tables.
-/
def skipMembers? :
    Nat → Nat → Contents → List Char → Option (List Char)
| 0, _, _, _ => none
| fuel + 1, depth, entries, cs =>
    match skipLines cs.length cs with
    | '\x7d' :: rest => some rest
    | cs =>
        match key? cs with
        | none => none
        | some (key, rest) =>
            match assign? key entries,
              skipLines rest.length rest with
            | some entries, '=' :: rest =>
                match skipValue? fuel depth
                    (skipLines rest.length rest) with
                | none => none
                | some rest =>
                    match skipLines rest.length rest with
                    | '\x7d' :: rest => some rest
                    | ',' :: rest =>
                        skipMembers? fuel depth entries rest
                    | _ => none
            | _, _ => none

end

------------------------------------------------------------
-- Statements
------------------------------------------------------------

/- Read the header of a table up to its closing brackets. -/
def header?
    (cs : List Char) : Option (Statement × List Char) :=
  match cs with
  | '[' :: cs =>
      match key? cs with
      | some (key, ']' :: ']' :: rest) =>
          some (.openElement key, rest)
      | _ => none
  | cs =>
      match key? cs with
      | some (key, ']' :: rest) => some (.openTable key, rest)
      | _ => none

/- Read a key and its value. -/
def assignment?
    (cs : List Char) : Option (Statement × List Char) :=
  match key? cs with
  | some (key, '=' :: rest) =>
      (skipValue? (2 * rest.length + 2) 0
        (skipBlanks rest)).map
        (fun rest => (.assign key, rest))
  | _ => none

/-
  Read statements, each on lines of its own.  There are no
  more of them than the fuel allows.
-/
def statements? : Nat → List Char → Option (List Statement)
| 0, cs => if cs = [] then some [] else none
| fuel + 1, cs =>
    let read :=
      match skipLines cs.length cs with
      | [] => some none
      | '#' :: cs =>
          if skipComment ('#' :: cs) = [] then some none
          else none
      | '[' :: cs => (header? cs).map some
      | cs => (assignment? cs).map some
    match read with
    | none => none
    | some none => some []
    | some (some (statement, rest)) =>
        match lineEnd? rest with
        | none => none
        | some rest =>
            (statements? fuel rest).map (statement :: ·)

------------------------------------------------------------
-- Documents
------------------------------------------------------------

/- The text behind a byte order mark, if it begins with one. -/
def dropMark : List Char → List Char
| '\ufeff' :: cs => cs
| cs => cs

/- The root table of a configuration, if it is well formed. -/
def root?
    (source : String) : Option Contents :=
  let cs := dropMark source.toList
  (statements? (cs.length + 1) cs).bind run?

/-
  The names in a table of the root.  Only tables opened by
  headers or grown by dotted keys count.
-/
def tableNames
    (root : Contents)
    (name : String) : List String :=
  match Entries.find? name root with
  | some (.table _ entries) => Entries.names entries
  | _ => []

end Toml

end TreePath
