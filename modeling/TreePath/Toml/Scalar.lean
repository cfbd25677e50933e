import TreePath.Decimal.Reader

/-
  This file defines which words of a configuration text are
  values: truth values, numbers, dates and times.

  Key definitions include:
    * `Toml.isInteger`
    * `Toml.isFloat`
    * `Toml.isDate`
    * `Toml.isTime`
    * `Toml.isScalar`
-/

namespace TreePath

namespace Toml

------------------------------------------------------------
-- Digits
------------------------------------------------------------

/-
  Digits, of which two neighbours may be kept apart by an
  underscore.
-/
def isDigits
    (digit : Char → Bool) : List Char → Bool
| [] => false
| [c] => digit c
| c :: '_' :: cs => digit c && isDigits digit cs
| c :: d :: cs => digit c && isDigits digit (d :: cs)

/- A word without its underscores. -/
def plainDigits
    (cs : List Char) : List Char :=
  cs.filter (· != '_')

/- The digits of a base. -/
def isDigitOf
    (base : Nat)
    (c : Char) : Bool :=
  if c.isDigit then c.toNat - 48 < base
  else
    base == 16 &&
      (('a' ≤ c && c ≤ 'f') || ('A' ≤ c && c ≤ 'F'))

/- The value of a digit in base sixteen. -/
def digitValue
    (c : Char) : Nat :=
  if c.isDigit then c.toNat - 48
  else if 'a' ≤ c then c.toNat - 87
  else c.toNat - 55

/- The value of digits in a base. -/
def valueOf
    (base : Nat)
    (cs : List Char) : Nat :=
  (plainDigits cs).foldl
    (fun n c => base * n + digitValue c) 0

------------------------------------------------------------
-- Numbers
------------------------------------------------------------

/- Decimal digits that do not begin with a needless zero. -/
def isWhole : List Char → Bool
| ['0'] => true
| '0' :: _ => false
| cs => isDigits (isDigitOf 10) cs

/- The first number that has no room in 63 bits. -/
def limit : Nat :=
  Decimal.twoTo 63

/- A whole number of 64 bits, in one of four bases. -/
def isInteger : List Char → Bool
| '0' :: 'x' :: cs =>
    isDigits (isDigitOf 16) cs && valueOf 16 cs < limit
| '0' :: 'o' :: cs =>
    isDigits (isDigitOf 8) cs && valueOf 8 cs < limit
| '0' :: 'b' :: cs =>
    isDigits (isDigitOf 2) cs && valueOf 2 cs < limit
| '-' :: cs => isWhole cs && valueOf 10 cs ≤ limit
| '+' :: cs => isWhole cs && valueOf 10 cs < limit
| cs => isWhole cs && valueOf 10 cs < limit

/- The characters in front of the first of some others. -/
def before
    (stops : List Char)
    (cs : List Char) : List Char :=
  cs.takeWhile (fun c => !stops.contains c)

/- The characters from the first of some others on. -/
def from?
    (stops : List Char)
    (cs : List Char) : Option (List Char) :=
  match cs.dropWhile (fun c => !stops.contains c) with
  | [] => none
  | _ :: rest => some rest

/- Whether a decimal without underscores is finite. -/
def isFinite
    (cs : List Char) : Bool :=
  match Decimal.Literal.unsigned? false cs with
  | none => false
  | some (l, _) =>
      l.bits Decimal.double < Decimal.double.infinity

/-
  A decimal with a fraction or an exponent, infinity, or no
  number.
-/
def isFloat
    (word : List Char) : Bool :=
  let (_, cs) := Decimal.Literal.sign word
  if cs = ['i', 'n', 'f'] ∨ cs = ['n', 'a', 'n'] then true
  else
    let mantissa := before ['e', 'E'] cs
    let exponent := from? ['e', 'E'] cs
    let fraction := from? ['.'] mantissa
    let decimal := isDigits (isDigitOf 10)
    isWhole (before ['.'] mantissa) &&
      (fraction.isSome || exponent.isSome) &&
      (fraction.map decimal).getD true &&
      (exponent.map
        (fun e => decimal (Decimal.Literal.sign e).2)).getD
          true &&
      isFinite (plainDigits cs)

------------------------------------------------------------
-- Dates and Times
------------------------------------------------------------

/- A number of exactly some digits, within bounds. -/
def isField
    (size least greatest : Nat)
    (cs : List Char) : Bool :=
  let n := Nat.ofDigitChars 10 cs 0
  cs.length == size && cs.all Char.isDigit &&
    least ≤ n && n ≤ greatest

/- The number of days in a month. -/
def daysIn
    (year month : Nat) : Nat :=
  if month = 2 then
    if year % 4 = 0 ∧ (year % 100 ≠ 0 ∨ year % 400 = 0)
    then 29
    else 28
  else if month = 4 ∨ month = 6 ∨ month = 9 ∨ month = 11
  then 30
  else 31

/- A day of the calendar. -/
def isDate
    (cs : List Char) : Bool :=
  match cs.splitOn '-' with
  | [year, month, day] =>
      let number (ds : List Char) : Nat :=
        Nat.ofDigitChars 10 ds 0
      isField 4 0 9999 year && isField 2 1 12 month &&
        isField 2 1 (daysIn (number year) (number month)) day
  | _ => false

/- Digits behind the seconds of a time. -/
def isSecondFraction : Option (List Char) → Bool
| none => true
| some cs => cs ≠ [] && cs.all Char.isDigit

/- A time of the day; a minute may have a leap second, and
   the seconds may be left out. -/
def isTime
    (cs : List Char) : Bool :=
  match (before ['.'] cs).splitOn ':' with
  | [hour, minute] =>
      isField 2 0 23 hour && isField 2 0 59 minute &&
        (from? ['.'] cs).isNone
  | [hour, minute, second] =>
      isField 2 0 23 hour && isField 2 0 59 minute &&
        isField 2 0 60 second &&
        isSecondFraction (from? ['.'] cs)
  | _ => false

/- The distance of a clock from the meridian. -/
def isClockOffset
    (cs : List Char) : Bool :=
  match cs.splitOn ':' with
  | [hour, minute] =>
      isField 2 0 23 hour && isField 2 0 59 minute
  | _ => false

/- A time with or without the offset of its clock. -/
def isClock
    (cs : List Char) : Bool :=
  match cs.getLast? with
  | some 'Z' | some 'z' => isTime cs.dropLast
  | _ =>
      match from? ['+', '-'] cs with
      | none => isTime cs
      | some offset =>
          isTime (before ['+', '-'] cs) &&
            isClockOffset offset

/- A date, a time, or both. -/
def isDateTime
    (cs : List Char) : Bool :=
  isTime cs || isDate cs ||
    (isDate (cs.take 10) &&
      (match cs.drop 10 with
      | c :: clock =>
          (c == 'T' || c == 't' || c == ' ') && isClock clock
      | [] => false))

------------------------------------------------------------
-- Words
------------------------------------------------------------

/- Whether a word is a value. -/
def isScalar
    (word : List Char) : Bool :=
  word = "true".toList || word = "false".toList ||
    isInteger word || isFloat word || isDateTime word

end Toml

end TreePath
