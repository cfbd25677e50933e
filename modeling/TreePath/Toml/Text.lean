import TreePath.Json.Reader

/-
  This file defines the blanks, comments, texts and keys of a
  configuration.

  Key definitions include:
    * `Toml.skipBlanks`
    * `Toml.lineEnd?`
    * `Toml.skipLines`
    * `Toml.basicText?`
    * `Toml.literalText?`
    * `Toml.skipBlock`
    * `Toml.depthLimit`
    * `Toml.key?`
-/

namespace TreePath

namespace Toml

------------------------------------------------------------
-- Blanks and Comments
------------------------------------------------------------

/- Blanks stay on their line. -/
def isBlank
    (c : Char) : Bool :=
  c == ' ' || c == '\t'

/- Skip blanks. -/
def skipBlanks
    (cs : List Char) : List Char :=
  cs.dropWhile isBlank

/- Control characters have no place in a configuration. -/
def isControl
    (c : Char) : Bool :=
  (c.toNat < 0x20 && c != '\t') || c == '\x7f'

/- The text after a line break. -/
def afterBreak? : List Char → Option (List Char)
| '\n' :: cs => some cs
| '\r' :: '\n' :: cs => some cs
| _ => none

/- Skip a comment, if there is one. -/
def skipComment : List Char → List Char
| '#' :: cs => cs.dropWhile (fun c => !isControl c)
| cs => cs

/- The text after the end of a line, which may be the end of
   the whole text. -/
def lineEnd?
    (cs : List Char) : Option (List Char) :=
  match skipComment (skipBlanks cs) with
  | [] => some []
  | rest => afterBreak? rest

/-
  Skip blanks, comments and line breaks.  No more lines are
  skipped than the fuel allows.
-/
def skipLines : Nat → List Char → List Char
| 0, cs => cs
| fuel + 1, cs =>
    let rest := skipComment (skipBlanks cs)
    match afterBreak? rest with
    | some rest => skipLines fuel rest
    | none => skipBlanks cs

------------------------------------------------------------
-- Texts on One Line
------------------------------------------------------------

/- The character that a short escape stands for. -/
def shortEscape? : Char → Option Char
| '"' => some '"'
| '\\' => some '\\'
| 'b' => some '\x08'
| 'e' => some '\x1b'
| 'f' => some '\x0c'
| 'n' => some '\n'
| 'r' => some '\r'
| 't' => some '\t'
| _ => none

/- The character with a number in base sixteen. -/
def numbered?
    (digits : List Char) : Option Char :=
  (Json.hexValue? 0 digits).bind
    (fun n => if n.isValidChar then some (Char.ofNat n) else none)

/- Put a character in front of a text that was read. -/
def prepend?
    (c : Option Char)
    (r : Option (List Char × List Char)) :
      Option (List Char × List Char) :=
  match c, r with
  | some c, some (text, rest) => some (c :: text, rest)
  | _, _ => none

/- Read a text with escapes up to its closing quote. -/
def basicText? : List Char →
    Option (List Char × List Char)
| [] => none
| '"' :: cs => some ([], cs)
| '\\' :: 'x' :: a :: b :: cs =>
    prepend? (numbered? [a, b]) (basicText? cs)
| '\\' :: 'u' :: a :: b :: c :: d :: cs =>
    prepend? (numbered? [a, b, c, d]) (basicText? cs)
| '\\' :: 'U' :: a :: b :: c :: d ::
    e :: f :: g :: h :: cs =>
    prepend? (numbered? [a, b, c, d, e, f, g, h])
      (basicText? cs)
| '\\' :: c :: cs =>
    prepend? (shortEscape? c) (basicText? cs)
| c :: cs =>
    if isControl c ∨ c = '\\' then none
    else prepend? (some c) (basicText? cs)

/- Read a text without escapes up to its closing quote. -/
def literalText? : List Char →
    Option (List Char × List Char)
| [] => none
| '\'' :: cs => some ([], cs)
| c :: cs =>
    if isControl c then none
    else prepend? (some c) (literalText? cs)

------------------------------------------------------------
-- Texts over Several Lines
------------------------------------------------------------

/- How the next character of a block is to be taken. -/
inductive BlockState where
| text
| escape
| gap
deriving DecidableEq

/- Up to two quotes may stand before the three that close. -/
def dropQuotes
    (quote : Char) : List Char → List Char
| c :: d :: cs =>
    if c = quote ∧ d = quote then cs
    else if c = quote then d :: cs
    else c :: d :: cs
| [c] => if c = quote then [] else [c]
| [] => []

/-
  Skip a block up to and with its three closing quotes.  In
  a block with double quotes a backslash escapes; one at the
  end of a line joins lines.
-/
def skipBlock
    (quote : Char) :
    BlockState → List Char → Option (List Char)
| _, [] => none
| .escape, 'x' :: a :: b :: cs =>
    match numbered? [a, b] with
    | some _ => skipBlock quote .text cs
    | none => none
| .escape, 'u' :: a :: b :: c :: d :: cs =>
    match numbered? [a, b, c, d] with
    | some _ => skipBlock quote .text cs
    | none => none
| .escape, 'U' :: a :: b :: c :: d ::
    e :: f :: g :: h :: cs =>
    match numbered? [a, b, c, d, e, f, g, h] with
    | some _ => skipBlock quote .text cs
    | none => none
| .escape, '\r' :: '\n' :: cs => skipBlock quote .text cs
| .escape, c :: cs =>
    if c = '\n' then skipBlock quote .text cs
    else if isBlank c then skipBlock quote .gap cs
    else if (shortEscape? c).isSome then
      skipBlock quote .text cs
    else none
| .gap, '\r' :: '\n' :: cs => skipBlock quote .text cs
| .gap, c :: cs =>
    if c = '\n' then skipBlock quote .text cs
    else if isBlank c then skipBlock quote .gap cs
    else none
| .text, '\r' :: '\n' :: cs => skipBlock quote .text cs
| .text, c :: cs =>
    if c = quote ∧ cs.take 2 = [quote, quote] then
      some (dropQuotes quote (cs.drop 2))
    else if c = '\\' ∧ quote = '"' then
      skipBlock quote .escape cs
    else if isControl c ∧ c ≠ '\n' then none
    else skipBlock quote .text cs

------------------------------------------------------------
-- Keys
------------------------------------------------------------

/- The characters of a key without quotes. -/
def isBare
    (c : Char) : Bool :=
  c.isAlphanum || c == '_' || c == '-'

/- Read one part of a key. -/
def keyPart?
    (cs : List Char) : Option (String × List Char) :=
  let named (r : Option (List Char × List Char)) :=
    r.map (fun (text, rest) => (String.ofList text, rest))
  match cs with
  | '"' :: cs => named (basicText? cs)
  | '\'' :: cs => named (literalText? cs)
  | cs =>
      match cs.takeWhile isBare with
      | [] => none
      | bare =>
          some (String.ofList bare, cs.dropWhile isBare)

/- How deep values may be nested, and how many parts a key
   may have. -/
def depthLimit : Nat :=
  80

/-
  Read the parts of a key, with dots between them and blanks
  around the dots.  There may be no more than a number.
-/
def keyParts? : Nat → List Char →
    Option (List String × List Char)
| 0, _ => none
| more + 1, cs =>
    match keyPart? (skipBlanks cs) with
    | none => none
    | some (part, rest) =>
        match skipBlanks rest with
        | '.' :: rest =>
            (keyParts? more rest).map
              (fun (parts, r) => (part :: parts, r))
        | rest => some ([part], rest)

/- Read a key. -/
def key?
    (cs : List Char) : Option (List String × List Char) :=
  keyParts? depthLimit cs

end Toml

end TreePath
