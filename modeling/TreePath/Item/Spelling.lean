import TreePath.Json.Reader
import TreePath.Text.Identifier

/-
  This file defines how literals are spelt: texts, quoted
  characters and numbers.  Each reader yields what is left
  behind a literal.

  Key definitions include:
    * `Item.TextKind`
    * `Item.character?`
    * `Item.readText?`
    * `Item.rawText?`
    * `Item.quotedChar?`
    * `Item.number?`
-/

namespace TreePath

namespace Item

/-
  A text holds characters, or only bytes, or characters with
  a null behind the last that no other may be.
-/
inductive TextKind where
| characters
| bytes
| terminated
deriving DecidableEq, Repr

/- Whether a character may stand in a text unescaped. -/
def TextKind.admits
    (k : TextKind)
    (c : Char) : Bool :=
  match k with
  | .characters => true
  | .bytes => c.toNat < 128
  | .terminated => c != '\x00'

------------------------------------------------------------
-- Escapes
------------------------------------------------------------

/- The character that a short escape stands for. -/
def shortEscape? : Char → Option Char
| 'n' => some '\n'
| 'r' => some '\r'
| 't' => some '\t'
| '0' => some '\x00'
| '\\' => some '\\'
| '\'' => some '\''
| '"' => some '"'
| _ => none

/- The character with a number in braces: at most six digits,
   with underscores behind the first. -/
def bracedChar?
    (cs : List Char) : Option (Char × List Char) :=
  match cs with
  | '\x7b' :: cs =>
      let written := cs.takeWhile (· != '\x7d')
      let digits := written.filter (· != '_')
      match cs.dropWhile (· != '\x7d') with
      | _ :: rest =>
          match Json.hexValue? 0 digits with
          | some n =>
              if digits ≠ [] ∧ digits.length ≤ 6 ∧
                  written.head? ≠ some '_' ∧ n.isValidChar
              then some (Char.ofNat n, rest)
              else none
          | none => none
      | [] => none
  | _ => none

/- Read an escape after its backslash. -/
def escapedChar?
    (k : TextKind) : List Char → Option (Char × List Char)
| 'x' :: a :: b :: rest =>
    match Json.hexValue? 0 [a, b] with
    | none => none
    | some n =>
        if k = .characters ∧ 128 ≤ n then none
        else some (Char.ofNat n, rest)
| 'u' :: rest => if k = .bytes then none else bracedChar? rest
| c :: rest => (shortEscape? c).map (fun c => (c, rest))
| [] => none

------------------------------------------------------------
-- Texts
------------------------------------------------------------

/- Read one character of a text, escaped or not.  A return
   must be part of a break. -/
def character?
    (k : TextKind) : List Char → Option (Char × List Char)
| '\\' :: rest => escapedChar? k rest
| '\r' :: '\n' :: rest => some ('\n', rest)
| '\r' :: _ => none
| c :: rest => if k.admits c then some (c, rest) else none
| [] => none

/- Skip breaks and blanks. -/
def skipBreaks? : List Char → Option (List Char)
| '\r' :: '\n' :: cs => skipBreaks? cs
| '\r' :: _ => none
| '\n' :: cs => skipBreaks? cs
| ' ' :: cs => skipBreaks? cs
| '\t' :: cs => skipBreaks? cs
| cs => some cs

/- Whether a backslash stands at the end of a line. -/
def endsLine : List Char → Bool
| '\\' :: '\n' :: _ => true
| '\\' :: '\r' :: _ => true
| _ => false

/-
  Read a text up to its closing quote.  A backslash at the
  end of a line takes away the break and the blanks behind
  it.
-/
def readText?
    (k : TextKind) : Nat → List Char →
      Option (List Char × List Char)
| 0, _ => none
| fuel + 1, cs =>
    match cs with
    | '"' :: rest => some ([], rest)
    | cs =>
        if endsLine cs then
          (skipBreaks? (cs.drop 1)).bind (readText? k fuel)
        else
          match character? k cs with
          | none => none
          | some (c, rest) =>
              if k = .terminated ∧ c = '\x00' then none
              else
                (readText? k fuel rest).map
                  (fun (text, r) => (c :: text, r))

/- Read a raw text up to a quote and some number signs. -/
def readRaw?
    (k : TextKind)
    (signs : List Char) : List Char →
      Option (List Char × List Char)
| '\r' :: '\n' :: cs =>
    (readRaw? k signs cs).map
      (fun (text, r) => ('\r' :: '\n' :: text, r))
| c :: cs =>
    if c = '"' ∧ cs.take signs.length = signs then
      some ([], cs.drop signs.length)
    else if c = '\r' ∨ !k.admits c then none
    else
      (readRaw? k signs cs).map
        (fun (text, r) => (c :: text, r))
| [] => none

/- Read a raw text after its first letters. -/
def rawText?
    (k : TextKind)
    (cs : List Char) : Option (List Char × List Char) :=
  let signs := cs.takeWhile (· == '#')
  match cs.dropWhile (· == '#') with
  | '"' :: rest =>
      if signs.length ≤ 255 then readRaw? k signs rest
      else none
  | _ => none

/- Read a quoted character after its first quote. -/
def quotedChar?
    (k : TextKind)
    (cs : List Char) : Option (List Char) :=
  let closed : List Char → Option (List Char)
    | '\'' :: rest => some rest
    | _ => none
  match cs with
  | '\\' :: rest =>
      (escapedChar? k rest).bind (fun (_, rest) => closed rest)
  | c :: rest => if k.admits c then closed rest else none
  | [] => none

------------------------------------------------------------
-- Numbers
------------------------------------------------------------

/- Skip the name that may end a literal. -/
def skipSuffix : List Char → List Char
| [] => []
| c :: cs =>
    if Identifier.isStart c then
      cs.dropWhile Identifier.isContinue
    else c :: cs

/- Skip digits and underscores. -/
def skipDigits
    (cs : List Char) : List Char :=
  cs.dropWhile (fun c => c.isDigit || c == '_')

/-
  Read an exponent after its letter: perhaps a sign, and at
  least one digit.
-/
def exponent? : Bool → Bool → List Char → Option (List Char)
| _, digits, [] => if digits then some [] else none
| sign, digits, c :: cs =>
    if c.isDigit then exponent? sign true cs
    else if c = '_' then exponent? sign digits cs
    else if digits then some (c :: cs)
    else if (c = '+' ∨ c = '-') ∧ !sign then
      exponent? true digits cs
    else none

/- Whether an exponent may come next. -/
def startsExponent : List Char → Bool
| c :: _ => c == 'e' || c == 'E'
| [] => false

/- Whether a point in front of this belongs to no number. -/
def refusesPoint : List Char → Bool
| c :: _ => c == '.' || Identifier.isStart c
| [] => false

/- Read a number with a point or an exponent. -/
def fraction?
    (cs : List Char) : Option (List Char) :=
  let exponent (rest : List Char) : Option (List Char) :=
    if startsExponent rest then
      exponent? false false (rest.drop 1)
    else none
  if (cs.head?.map Char.isDigit).getD false then
    match skipDigits cs with
    | '.' :: more =>
        if refusesPoint more then none
        else
          let rest := skipDigits more
          some ((exponent rest).getD rest)
    | rest => exponent rest
  else none

/- Read the digits of a whole number. -/
def wholeDigits?
    (base : Nat) : Bool → List Char → Option (List Char)
| digits, [] => if digits then some [] else none
| digits, c :: cs =>
    if c = '_' then
      if !digits && base = 10 then none
      else wholeDigits? base digits cs
    else
      match Json.hexDigit? c with
      | some d =>
          if d < base then wholeDigits? base true cs
          else if c.isDigit then none
          else if digits then some (c :: cs)
          else none
      | none => if digits then some (c :: cs) else none

/- Read a whole number in base ten or in a marked one. -/
def whole? : List Char → Option (List Char)
| '0' :: 'x' :: cs => wholeDigits? 16 false cs
| '0' :: 'o' :: cs => wholeDigits? 8 false cs
| '0' :: 'b' :: cs => wholeDigits? 2 false cs
| cs => wholeDigits? 10 false cs

/- Read what may end a number, unless more of a word comes. -/
def numberEnd?
    (cs : List Char) : Option (List Char) :=
  match skipSuffix cs with
  | [] => some []
  | c :: rest =>
      if Identifier.isContinue c then none
      else some (c :: rest)

/- Read a number. -/
def number?
    (cs : List Char) : Option (List Char) :=
  ((fraction? cs).bind numberEnd?).or
    ((whole? cs).bind numberEnd?)

end Item

end TreePath
