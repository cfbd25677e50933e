/-
  This file defines binary floating-point formats, the exact
  value of a bit pattern, and the pattern nearest to a
  decimal.

  Key definitions include:
    * `Decimal.twoTo`
    * `Decimal.tenTo`
    * `Decimal.BinaryFormat`
    * `Decimal.Reading`
    * `Decimal.BinaryFormat.read`
    * `Decimal.BinaryFormat.nearest`
-/

namespace TreePath

namespace Decimal

------------------------------------------------------------
-- Powers
------------------------------------------------------------

/- A power of two. -/
def twoTo
    (n : Nat) : Nat :=
  Nat.pow 2 n

/- A power of ten. -/
def tenTo
    (n : Nat) : Nat :=
  Nat.pow 10 n

------------------------------------------------------------
-- Formats
------------------------------------------------------------

/-
  A format stores a sign, an exponent and a fraction.  The
  fields give the width of the last two in bits.
-/
structure BinaryFormat where
  exponentWidth : Nat
  fractionWidth : Nat
deriving DecidableEq, Repr

/- The format of 32 bits. -/
def single : BinaryFormat :=
  ⟨8, 23⟩

/- The format of 64 bits. -/
def double : BinaryFormat :=
  ⟨11, 52⟩

/- The value of a bit pattern. -/
inductive Reading where
| nan
| infinite (negative : Bool)
| finite (negative : Bool) (mantissa : Nat) (power : Int)
deriving DecidableEq, Repr

namespace BinaryFormat

/- The power of two that the last fraction bit of the
   smallest values stands for. -/
def minPower
    (format : BinaryFormat) : Int :=
  2 - twoTo (format.exponentWidth - 1) - format.fractionWidth

/- The pattern of infinity, without a sign. -/
def infinity
    (format : BinaryFormat) : Nat :=
  (twoTo format.exponentWidth - 1) * twoTo format.fractionWidth

/- The sign bit as a number. -/
def signBit
    (format : BinaryFormat)
    (negative : Bool) : Nat :=
  if negative then
    twoTo (format.exponentWidth + format.fractionWidth)
  else
    0

/-
  The exact value of a pattern.  A finite value is its
  mantissa times its power of two.
-/
def read
    (format : BinaryFormat)
    (bits : Nat) : Reading :=
  let fraction := bits % twoTo format.fractionWidth
  let exponent :=
    bits / twoTo format.fractionWidth % twoTo format.exponentWidth
  let negative :=
    bits / twoTo (format.exponentWidth + format.fractionWidth)
      % 2 == 1
  if exponent = twoTo format.exponentWidth - 1 then
    if fraction = 0 then .infinite negative else .nan
  else if exponent = 0 then
    .finite negative fraction format.minPower
  else
    .finite negative (twoTo format.fractionWidth + fraction)
      (format.minPower + exponent - 1)

------------------------------------------------------------
-- Rounding
------------------------------------------------------------

/- A quotient rounded to the nearest whole; a half goes to
   the even neighbour. -/
def roundHalfEven
    (num den : Nat) : Nat :=
  let q := num / den
  let r := num % den
  if 2 * r < den then q
  else if 2 * r = den then q + q % 2
  else q + 1

/-
  The pattern nearest to a positive fraction, without a
  sign.  Carries run from the fraction into the exponent.
-/
def nearestFraction
    (format : BinaryFormat)
    (num den : Nat) : Nat :=
  let scaled (power : Int) : Nat × Nat :=
    (num * twoTo (-power).toNat, den * twoTo power.toNat)
  let estimate : Int :=
    (Nat.log2 num : Int) - Nat.log2 den
      - format.fractionWidth - 1
  let low := max format.minPower estimate
  let limit := twoTo (format.fractionWidth + 1)
  let power :=
    if (scaled low).1 / (scaled low).2 < limit then low
    else low + 1
  let mantissa :=
    roundHalfEven (scaled power).1 (scaled power).2
  let bits :=
    (power - format.minPower).toNat
      * twoTo format.fractionWidth + mantissa
  min bits format.infinity

/-
  The pattern nearest to a decimal with the given digits and
  power of ten.  Decimals beyond every double are settled by
  their size alone.
-/
def nearest
    (format : BinaryFormat)
    (negative : Bool)
    (digits : Nat)
    (power : Int) : Nat :=
  let size : Int := (Nat.toDigits 10 digits).length + power
  let magnitude :=
    if digits = 0 ∨ size < -400 then 0
    else if 400 < size then format.infinity
    else
      format.nearestFraction
        (digits * tenTo power.toNat)
        (tenTo (-power).toNat)
  format.signBit negative + magnitude

/- The pattern of the value of a pattern in another format,
   rounded if need be. -/
def convert
    (source target : BinaryFormat)
    (bits : Nat) : Nat :=
  match source.read bits with
  | .nan => target.infinity + 1
  | .infinite negative =>
      target.signBit negative + target.infinity
  | .finite negative mantissa power =>
      let magnitude :=
        if mantissa = 0 then 0
        else
          target.nearestFraction
            (mantissa * twoTo power.toNat)
            (twoTo (-power).toNat)
      target.signBit negative + magnitude

end BinaryFormat

end Decimal

end TreePath
