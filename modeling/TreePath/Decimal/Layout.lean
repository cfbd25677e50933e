import TreePath.Decimal.Shortest

/-
  This file defines how the shortest decimal of a value is
  laid out as text.

  Key definitions include:
    * `Decimal.Layout`
    * `Decimal.Layout.render`
    * `Decimal.Layout.plain`
    * `Decimal.Layout.exact`
    * `Decimal.Layout.document`
-/

namespace TreePath

namespace Decimal

------------------------------------------------------------
-- Layouts
------------------------------------------------------------

/-
  A layout writes decimals positionally while the power of
  ten of their first digit lies in a range, and everywhere
  if it names none.  It may keep a point behind whole
  numbers, and it says which of two decimals counts if both
  are equally near.
-/
structure Layout where
  positional : Option (Int × Int)
  keepPoint : Bool
  tie : Tie
deriving DecidableEq, Repr

namespace Layout

/- Positional at every size, and whole numbers bare. -/
def plain : Layout :=
  ⟨none, false, .up⟩

/- The layout of values shown for inspection. -/
def exact : Layout :=
  ⟨some (-4, 15), true, .up⟩

/- The layout of numbers in documents. -/
def document : Layout :=
  ⟨some (-5, 15), true, .even⟩

------------------------------------------------------------
-- Digits
------------------------------------------------------------

/- Drop trailing zeros; each is worth a power of ten. -/
def trim
    (digits : List Char)
    (tens : Int) : List Char × Int :=
  let zeros := digits.reverse.takeWhile (· == '0')
  (digits.take (digits.length - zeros.length),
    tens + zeros.length)

/- Digits with a point in front of the last ones. -/
def positionalText
    (layout : Layout)
    (digits : List Char)
    (tens : Int) : List Char :=
  if 0 ≤ tens then
    digits ++ List.replicate tens.toNat '0' ++
      (if layout.keepPoint then ['.', '0'] else [])
  else
    let places := (-tens).toNat
    let padded :=
      List.replicate (places + 1 - digits.length) '0'
        ++ digits
    padded.take (padded.length - places) ++
      '.' :: padded.drop (padded.length - places)

/- One digit, the others behind a point, and the exponent. -/
def scientificText
    (digits : List Char)
    (exponent : Int) : List Char :=
  let fraction :=
    match digits.drop 1 with
    | [] => []
    | rest => '.' :: rest
  digits.take 1 ++ fraction ++
    'e' :: (toString exponent).toList

/- The text of a positive decimal. -/
def magnitude
    (layout : Layout)
    (digits : Nat)
    (tens : Int) : List Char :=
  let (ds, tens) := trim (Nat.toDigits 10 digits) tens
  let exponent := tens + ds.length - 1
  match layout.positional with
  | none => layout.positionalText ds tens
  | some (least, greatest) =>
      if least ≤ exponent ∧ exponent ≤ greatest then
        layout.positionalText ds tens
      else
        scientificText ds exponent

/- The text of a bit pattern. -/
def render
    (layout : Layout)
    (format : BinaryFormat)
    (bits : Nat) : String :=
  let sign (negative : Bool) : String :=
    if negative then "-" else ""
  match format.read bits with
  | .nan => "NaN"
  | .infinite negative => sign negative ++ "inf"
  | .finite negative 0 _ =>
      sign negative ++ (if layout.keepPoint then "0.0" else "0")
  | .finite negative (mantissa + 1) power =>
      let (digits, tens) :=
        shortest layout.tie format (mantissa + 1) power
      sign negative ++
        String.ofList (layout.magnitude digits tens)

end Layout

end Decimal

end TreePath
