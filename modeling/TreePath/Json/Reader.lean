import TreePath.Decimal.Reader
import TreePath.Json.Basic

/-
  This file defines the reading of documents from text.  A
  written document keeps what a document forgets: repeated
  members, unresolved escapes and the digits of numbers.

  Key definitions include:
    * `Json.Piece`
    * `Json.Written`
    * `Json.Written.ofText?`
    * `Json.Written.resolve?`
    * `Json.ofText?`
-/

namespace TreePath

namespace Json

------------------------------------------------------------
-- Written Documents
------------------------------------------------------------

/-
  A part of a written text: a character that stands for
  itself, or an escaped UTF-16 unit.
-/
inductive Piece where
| plain (c : Char)
| unit (u : Nat)
deriving DecidableEq, Repr

/- A document as it is written. -/
inductive Written where
| null
| bool (b : Bool)
| number (l : Decimal.Literal)
| text (pieces : List Piece)
| array (items : List Written)
| object (members : List (List Piece × Written))

------------------------------------------------------------
-- Texts
------------------------------------------------------------

/- The value of a digit in base sixteen. -/
def hexDigit?
    (c : Char) : Option Nat :=
  if c.isDigit then some (c.toNat - 48)
  else if 'a' ≤ c ∧ c ≤ 'f' then some (c.toNat - 87)
  else if 'A' ≤ c ∧ c ≤ 'F' then some (c.toNat - 55)
  else none

/- The value of a list of digits in base sixteen. -/
def hexValue? : Nat → List Char → Option Nat
| n, [] => some n
| n, c :: cs =>
    match hexDigit? c with
    | none => none
    | some d => hexValue? (16 * n + d) cs

/- The character that a short escape stands for. -/
def shortEscape? : Char → Option Char
| '"' => some '"'
| '\\' => some '\\'
| '/' => some '/'
| 'b' => some '\x08'
| 'f' => some '\x0c'
| 'n' => some '\n'
| 'r' => some '\r'
| 't' => some '\t'
| _ => none

/- Read a text up to its closing quote. -/
def readPieces : List Char →
    Option (List Piece × List Char)
| [] => none
| '"' :: cs => some ([], cs)
| '\\' :: 'u' :: a :: b :: c :: d :: cs =>
    match hexValue? 0 [a, b, c, d], readPieces cs with
    | some u, some (pieces, rest) =>
        some (.unit u :: pieces, rest)
    | _, _ => none
| '\\' :: c :: cs =>
    match shortEscape? c, readPieces cs with
    | some c, some (pieces, rest) =>
        some (.plain c :: pieces, rest)
    | _, _ => none
| c :: cs =>
    if c.toNat < 0x20 ∨ c = '\\' then none
    else
      match readPieces cs with
      | some (pieces, rest) => some (.plain c :: pieces, rest)
      | none => none

/- The first half of a surrogate pair. -/
def isHigh
    (u : Nat) : Bool :=
  0xd800 ≤ u && u < 0xdc00

/- The second half of a surrogate pair. -/
def isLow
    (u : Nat) : Bool :=
  0xdc00 ≤ u && u < 0xe000

/-
  The characters of a text.  Surrogates must come in pairs.
-/
def Piece.resolve? : List Piece → Option (List Char)
| [] => some []
| .plain c :: ps => (resolve? ps).map (c :: ·)
| .unit u :: .unit v :: ps =>
    if isHigh u then
      if isLow v then
        let n := 0x10000 + (u - 0xd800) * 0x400 + (v - 0xdc00)
        (resolve? ps).map (Char.ofNat n :: ·)
      else none
    else if isLow u then none
    else
      (resolve? (.unit v :: ps)).map (Char.ofNat u :: ·)
| .unit u :: ps =>
    if isHigh u || isLow u then none
    else (resolve? ps).map (Char.ofNat u :: ·)

/- The text of a list of pieces. -/
def textOf?
    (pieces : List Piece) : Option String :=
  (Piece.resolve? pieces).map String.ofList

------------------------------------------------------------
-- Values
------------------------------------------------------------

/- The characters between the tokens of a document. -/
def isBlank
    (c : Char) : Bool :=
  c == ' ' || c == '\n' || c == '\t' || c == '\r'

/- Skip blanks. -/
def skipBlanks
    (cs : List Char) : List Char :=
  cs.dropWhile isBlank

/- Read a number; only a bare zero may begin with zero. -/
def readNumber
    (cs : List Char) :
      Option (Written × List Char) :=
  let (negative, digits) :=
    match cs with
    | '-' :: cs => (true, cs)
    | cs => (false, cs)
  match Decimal.Literal.unsigned? negative digits with
  | none => none
  | some (l, rest) =>
      match l.whole with
      | '0' :: _ :: _ => none
      | _ => some (.number l, rest)

mutual

/-
  Read a value.  Every character is worth two calls, so fuel
  of twice the length of the text never runs out.
-/
def readValue : Nat → List Char →
    Option (Written × List Char)
| 0, _ => none
| fuel + 1, cs =>
    match skipBlanks cs with
    | 'n' :: 'u' :: 'l' :: 'l' :: rest => some (.null, rest)
    | 't' :: 'r' :: 'u' :: 'e' :: rest =>
        some (.bool true, rest)
    | 'f' :: 'a' :: 'l' :: 's' :: 'e' :: rest =>
        some (.bool false, rest)
    | '"' :: rest =>
        (readPieces rest).map (fun (ps, r) => (.text ps, r))
    | '[' :: rest =>
        match skipBlanks rest with
        | ']' :: rest => some (.array [], rest)
        | rest =>
            (readItems fuel rest).map
              (fun (items, r) => (.array items, r))
    | '\x7b' :: rest =>
        match skipBlanks rest with
        | '\x7d' :: rest => some (.object [], rest)
        | rest =>
            (readMembers fuel rest).map
              (fun (members, r) => (.object members, r))
    | cs => readNumber cs

/- Read items up to the bracket that closes them. -/
def readItems : Nat → List Char →
    Option (List Written × List Char)
| 0, _ => none
| fuel + 1, cs =>
    match readValue fuel cs with
    | none => none
    | some (item, rest) =>
        match skipBlanks rest with
        | ']' :: rest => some ([item], rest)
        | ',' :: rest =>
            (readItems fuel rest).map
              (fun (items, r) => (item :: items, r))
        | _ => none

/- Read members up to the bracket that closes them. -/
def readMembers : Nat → List Char →
    Option (List (List Piece × Written) × List Char)
| 0, _ => none
| fuel + 1, cs =>
    match skipBlanks cs with
    | '"' :: rest =>
        match readPieces rest with
        | none => none
        | some (name, rest) =>
            match skipBlanks rest with
            | ':' :: rest =>
                match readValue fuel rest with
                | none => none
                | some (item, rest) =>
                    match skipBlanks rest with
                    | '\x7d' :: rest =>
                        some ([(name, item)], rest)
                    | ',' :: rest =>
                        (readMembers fuel rest).map
                          (fun (ms, r) => ((name, item) :: ms, r))
                    | _ => none
            | _ => none
    | _ => none

end

/- Read a text that is one document and blanks. -/
def Written.ofText?
    (source : String) : Option Written :=
  let cs := source.toList
  match readValue (2 * cs.length + 2) cs with
  | none => none
  | some (value, rest) =>
      if skipBlanks rest = [] then some value else none

------------------------------------------------------------
-- Resolution
------------------------------------------------------------

/-
  The number of a literal: whole if it is written so and fits
  into 64 bits, and a finite double otherwise.
-/
def Number.ofLiteral?
    (l : Decimal.Literal) : Option Number :=
  let n : Int := Nat.ofDigitChars 10 l.whole 0
  let n := if l.negative then -n else n
  let fits :=
    if l.negative then -(Decimal.twoTo 63 : Int) ≤ n ∧ n ≠ 0
    else n < Decimal.twoTo 64
  if l.isWhole ∧ fits then
    some (.whole n)
  else
    let bits := l.bits Decimal.double
    match Decimal.double.read bits with
    | .finite _ _ _ => some (.real bits.toUInt64)
    | _ => none

mutual

/- The document that a written one stands for; of repeated
   members the last wins. -/
def Written.resolve? : Written → Option Json
| .null => some .null
| .bool b => some (.bool b)
| .number l => (Number.ofLiteral? l).map Json.number
| .text pieces => (textOf? pieces).map Json.text
| .array items => (resolveItems? items).map Json.array
| .object members =>
    (resolveMembers? members).map Json.ofMembers

/- The documents that written ones stand for. -/
def Written.resolveItems? :
    List Written → Option (List Json)
| [] => some []
| item :: items =>
    match item.resolve?, resolveItems? items with
    | some j, some js => some (j :: js)
    | _, _ => none

/- The members that written ones stand for. -/
def Written.resolveMembers? :
    List (List Piece × Written) →
      Option (List (String × Json))
| [] => some []
| (name, item) :: members =>
    match textOf? name, item.resolve?,
      resolveMembers? members with
    | some s, some j, some ms => some ((s, j) :: ms)
    | _, _, _ => none

end

end Json

/- Read a document. -/
def Json.ofText?
    (source : String) : Option Json :=
  (Json.Written.ofText? source).bind Json.Written.resolve?

end TreePath
