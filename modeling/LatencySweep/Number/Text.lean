import LatencySweep.Number.Shortest

/-
  The text of a float.

  Values are written with the shortest digits that read
  back, always positional and without a point if they are
  whole; of two equally near texts the upper is taken.
  Summaries have six places, and messages about misplaced
  numbers write them as a literal with a point or an
  exponent; there a tie goes to the even digit.

  Key definitions include:
    * `Decimal.positional`
    * `Binary64.toText`
    * `Binary64.toFixed`
    * `Binary64.toLiteral`
-/

namespace LatencySweep

------------------------------------------------------------
-- Decimal Layouts
------------------------------------------------------------

namespace Decimal

/- The given number of zeros. -/
def zeros (n : Nat) : List Char :=
  List.replicate n '0'

/- Digits without the zeros at their end. -/
def withoutTrailingZeros (digits : List Char) : List Char :=
  (digits.reverse.dropWhile (· = '0')).reverse

/- The digits that a decimal needs. -/
def significant (d : Decimal) : List Char :=
  withoutTrailingZeros (decimalDigits d.coefficient)

/- How many digits of a decimal stand before the point;
   negative for zeros behind the point. -/
def pointPosition (d : Decimal) : Int :=
  (decimalDigits d.coefficient).length + d.exponent

/- The decimal without an exponent. A whole number ends
   with the given text. -/
def positional
    (d : Decimal)
    (wholeEnding : List Char) : List Char :=
  let digits := d.significant
  let point := d.pointPosition
  if point ≤ 0 then
    ['0', '.'] ++ zeros (-point).toNat ++ digits
  else if digits.length ≤ point.toNat then
    digits ++ zeros (point.toNat - digits.length) ++
      wholeEnding
  else
    digits.take point.toNat ++ ['.'] ++
      digits.drop point.toNat

/- An exponent with its sign. -/
def exponentText (exponent : Int) : List Char :=
  ['e', if exponent < 0 then '-' else '+'] ++
    decimalDigits exponent.natAbs

/- The decimal with one digit before the point. -/
def scientific (d : Decimal) : List Char :=
  match d.significant with
  | [] => ['0']
  | [digit] => digit :: exponentText (d.pointPosition - 1)
  | digit :: rest =>
      [digit, '.'] ++ rest ++
        exponentText (d.pointPosition - 1)

end Decimal

------------------------------------------------------------
-- Float Layouts
------------------------------------------------------------

namespace Binary64

/- The text behind the sign, or the name of a NaN. -/
def signed (x : Binary64) (body : List Char) : String :=
  if x.IsNaN then "NaN"
  else
    String.ofList
      (if x.negative then '-' :: body else body)

/- The shortest text that reads back, without exponent. -/
def toText (x : Binary64) : String :=
  x.signed <|
    if x.IsFinite then
      if x.IsZero then ['0']
      else (shortest .upper x.magnitude).positional []
    else ['i', 'n', 'f']

/- The text with a fixed number of places, at least one.
   The exact value is rounded, a half to the even digit. -/
def toFixed (places : Nat) (x : Binary64) : String :=
  x.signed <|
    if x.IsFinite then
      let scaled :=
        roundHalfEven (x.units * tenTo places) unitsPerOne
      let fraction := decimalDigits (scaled % tenTo places)
      decimalDigits (scaled / tenTo places) ++ ['.'] ++
        Decimal.zeros (places - fraction.length) ++ fraction
    else ['i', 'n', 'f']

/- The text of a number literal: positional with a point
   from `10 ^ -5` up to `10 ^ 16`, else with an exponent. -/
def toLiteral (x : Binary64) : String :=
  x.signed <|
    if x.IsFinite then
      if x.IsZero then ['0', '.', '0']
      else
        let d := shortest .even x.magnitude
        if -5 < d.pointPosition ∧ d.pointPosition ≤ 16 then
          d.positional ['.', '0']
        else d.scientific
    else ['i', 'n', 'f']

instance : ToString Binary64 := ⟨toText⟩

example : (zero true).toText = "-0" := by decide +kernel
example : (ofRatio false 1 10000000).toText =
    "0.0000001" := by decide +kernel
example : (ofRatio true 125 100).toFixed 1 = "-1.2" := by
  decide +kernel
example : (ofNat (tenTo 16)).toLiteral = "1e+16" := by
  decide +kernel
example : (ofNat 10).toLiteral = "10.0" := by
  decide +kernel
example : (ofRatio false 1 (tenTo 7)).toLiteral =
    "1e-7" := by decide +kernel

end Binary64

end LatencySweep
