import TreePath.Decimal.Binary

/-
  This file defines the shortest decimal that rounds to a
  binary floating-point value.

  Key definitions include:
    * `Decimal.Interval`
    * `Decimal.Interval.ofValue`
    * `Decimal.Tie`
    * `Decimal.onGrid?`
    * `Decimal.shortest`
-/

namespace TreePath

namespace Decimal

------------------------------------------------------------
-- Rounding Intervals
------------------------------------------------------------

/-
  The decimals that round to a value lie between `low` and
  `high`.  All three numbers count units of two to the given
  power; the ends belong to the interval if it is closed.
-/
structure Interval where
  low : Nat
  value : Nat
  high : Nat
  power : Int
  closed : Bool
deriving Repr

/-
  The interval of a positive value.  Below the first
  mantissa of a binade the neighbours are twice as dense.
-/
def Interval.ofValue
    (format : BinaryFormat)
    (mantissa : Nat)
    (power : Int) : Interval :=
  let dense :=
    mantissa == twoTo format.fractionWidth
      && format.minPower < power
  { low := 4 * mantissa - (if dense then 1 else 2)
    value := 4 * mantissa
    high := 4 * mantissa + 2
    power := power - 2
    closed := mantissa % 2 == 0 }

/-
  Both sides of a comparison between `digits` tens and
  `units` twos, without their common denominator.
-/
def sides
    (digits : Nat)
    (tens : Int)
    (units : Nat)
    (twos : Int) : Nat × Nat :=
  (digits * tenTo tens.toNat * twoTo (-twos).toNat,
    units * twoTo twos.toNat * tenTo (-tens).toNat)

/- Whether a decimal lies in an interval. -/
def Interval.contains
    (i : Interval)
    (digits : Nat)
    (tens : Int) : Bool :=
  let below := sides digits tens i.low i.power
  let above := sides digits tens i.high i.power
  if i.closed then
    below.2 ≤ below.1 && above.1 ≤ above.2
  else
    below.2 < below.1 && above.1 < above.2

------------------------------------------------------------
-- Decimal Grids
------------------------------------------------------------

/- The greatest multiple of a power of ten up to a value. -/
def Interval.floor
    (i : Interval)
    (tens : Int) : Nat :=
  let one := sides 1 tens i.value i.power
  one.2 / one.1

/- The power of ten of the first digit of a value. -/
def Interval.exponent
    (i : Interval) : Int :=
  let log : Int := Nat.log2 i.value + i.power
  let estimate : Int := log * 30103 / 100000
  if 1 ≤ i.floor (estimate + 1) then estimate + 1
  else if 1 ≤ i.floor estimate then estimate
  else estimate - 1

/- Which of two equally near grid points is taken: the
   greater one, or the one with an even last digit. -/
inductive Tie where
| up
| even
deriving DecidableEq, Repr

/-
  The grid point of an interval nearest to its value, if
  there is one.
-/
def onGrid?
    (tie : Tie)
    (i : Interval)
    (tens : Int) : Option Nat :=
  let below := i.floor tens
  let above := below + 1
  match i.contains below tens, i.contains above tens with
  | false, false => none
  | true, false => some below
  | false, true => some above
  | true, true =>
      let middle := sides (2 * below + 1) tens
        (2 * i.value) i.power
      let tied := tie = .even ∧ below % 2 = 0
      if middle.2 < middle.1 then some below
      else if middle.2 = middle.1 ∧ tied then some below
      else some above

/- Try grids of ever finer spacing. -/
def firstOnGrid
    (tie : Tie)
    (i : Interval) : Nat → Int → Nat × Int
| 0, tens => (i.floor tens, tens)
| tries + 1, tens =>
    match onGrid? tie i tens with
    | some digits => (digits, tens)
    | none => firstOnGrid tie i tries (tens - 1)

/-
  The digits and the power of ten of the shortest decimal
  that rounds to a positive value.  Seventeen digits suffice
  for every double.
-/
def shortest
    (tie : Tie)
    (format : BinaryFormat)
    (mantissa : Nat)
    (power : Int) : Nat × Int :=
  let i := Interval.ofValue format mantissa power
  firstOnGrid tie i 17 i.exponent

end Decimal

end TreePath
