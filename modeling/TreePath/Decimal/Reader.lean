import TreePath.Decimal.Binary

/-
  This file defines the reading of decimal texts as binary
  floating-point values.

  Key definitions include:
    * `Decimal.Literal`
    * `Decimal.Literal.unsigned?`
    * `Decimal.Literal.bits`
    * `Decimal.BinaryFormat.ofText?`
-/

namespace TreePath

namespace Decimal

------------------------------------------------------------
-- Literals
------------------------------------------------------------

/- A decimal as it is written: its digits before and after
   the point, and its power of ten. -/
structure Literal where
  negative : Bool
  whole : List Char
  fraction : Option (List Char)
  exponent : Option Int
deriving DecidableEq, Repr

namespace Literal

/- Whether a literal has neither a point nor an exponent. -/
def isWhole
    (l : Literal) : Bool :=
  l.fraction.isNone && l.exponent.isNone

/- The pattern nearest to a literal. -/
def bits
    (format : BinaryFormat)
    (l : Literal) : Nat :=
  let fraction := l.fraction.getD []
  format.nearest l.negative
    (Nat.ofDigitChars 10 (l.whole ++ fraction) 0)
    (l.exponent.getD 0 - fraction.length)

/- A sign, if there is one, and what follows it. -/
def sign : List Char → Bool × List Char
| '-' :: cs => (true, cs)
| '+' :: cs => (false, cs)
| cs => (false, cs)

/- Read a signed power of ten. -/
def exponent?
    (cs : List Char) : Option (Int × List Char) :=
  let (negative, cs) := sign cs
  match cs.takeWhile Char.isDigit with
  | [] => none
  | digits =>
      let n : Int := Nat.ofDigitChars 10 digits 0
      some (if negative then -n else n,
        cs.dropWhile Char.isDigit)

/-
  Read the longest literal at the front of a text; the sign
  is already read.  A point needs digits behind it.
-/
def unsigned?
    (negative : Bool)
    (cs : List Char) : Option (Literal × List Char) :=
  let whole := cs.takeWhile Char.isDigit
  let rest := cs.dropWhile Char.isDigit
  let fractional : Option (Option (List Char) × List Char) :=
    match rest with
    | '.' :: more =>
        match more.takeWhile Char.isDigit with
        | [] => none
        | digits =>
            some (some digits, more.dropWhile Char.isDigit)
    | _ => some (none, rest)
  match whole, fractional with
  | [], _ => none
  | _, none => none
  | _, some (fraction, rest) =>
      let build (exponent : Option Int) : Literal :=
        ⟨negative, whole, fraction, exponent⟩
      match rest with
      | 'e' :: more | 'E' :: more =>
          (exponent? more).map
            (fun (n, rest) => (build (some n), rest))
      | _ => some (build none, rest)

end Literal

/-
  The pattern that a text names: a literal, a signed
  infinity or no number.
-/
def BinaryFormat.ofText?
    (format : BinaryFormat)
    (text : String) : Option Nat :=
  let (negative, cs) := Literal.sign text.toList
  match (String.ofList cs) with
  | "inf" => some (format.signBit negative + format.infinity)
  | "NaN" =>
      some (format.infinity + twoTo (format.fractionWidth - 1))
  | _ =>
      (Literal.unsigned? negative cs).bind
        (fun (l, rest) =>
          if rest = [] then some (l.bits format) else none)

end Decimal

end TreePath
