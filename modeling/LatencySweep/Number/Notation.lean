import LatencySweep.Number.Decimal
import LatencySweep.Number.Rounding
import LatencySweep.Number.Digits

/-
  Fixed and scientific notation of quotients.

  A quotient is rounded to a number of places, a half to the
  even digit. General notation is fixed for moderate sizes
  and scientific for others.

  Key definitions include:
    * `Quotient`
    * `Quotient.fixed`
    * `Quotient.scientific`
    * `Quotient.general`
-/

namespace LatencySweep

/- A quotient of natural numbers. -/
structure Quotient where
  num : Nat
  den : Nat
  deriving DecidableEq

namespace Quotient

/- The absolute value of a finite float. -/
def ofBinary64 (x : Binary64) : Quotient :=
  ⟨x.units, Binary64.unitsPerOne⟩

/- The point and what is behind it. -/
def fractionText
    (digits : List Char)
    (keepsPoint : Bool) : List Char :=
  if digits = [] ∧ !keepsPoint then [] else '.' :: digits

/- The fixed notation with some places. -/
def fixed
    (q : Quotient)
    (places : Nat)
    (keepsPoint : Bool) : List Char :=
  let scaled := roundHalfEven (q.num * tenTo places) q.den
  let fraction :=
    if places = 0 then []
    else
      let digits := decimalDigits (scaled % tenTo places)
      List.replicate (places - digits.length) '0' ++ digits
  decimalDigits (scaled / tenTo places) ++
    fractionText fraction keepsPoint

/- The exponent of the leading digit. -/
def leading (q : Quotient) : Int :=
  if q.den ≤ q.num then
    ((decimalDigits (q.num / q.den)).length : Int) - 1
  else if q.num = 0 then 0
  else -((decimalDigits ((q.den - 1) / q.num)).length : Int)

/- The digits of a number rounded to some places behind the
   leading digit, and its exponent. -/
def rounded
    (q : Quotient)
    (places : Nat) : List Char × Int :=
  let exponent := q.leading
  let shift := (places : Int) - exponent
  let scaled :=
    roundHalfEven (q.num * tenTo shift.toNat)
      (q.den * tenTo (-shift).toNat)
  let digits := decimalDigits scaled
  if q.num = 0 then (List.replicate (places + 1) '0', 0)
  else if places + 1 < digits.length then
    (digits.dropLast, exponent + 1)
  else (digits, exponent)

/- An exponent with its letter, sign and two digits. -/
def exponentText (exponent : Int) : List Char :=
  let digits := decimalDigits exponent.natAbs
  ['e', if exponent < 0 then '-' else '+'] ++
    List.replicate (2 - digits.length) '0' ++ digits

/- The scientific notation with some places. -/
def scientific
    (q : Quotient)
    (places : Nat)
    (keepsPoint : Bool) : List Char :=
  let (digits, exponent) := q.rounded places
  digits.take 1 ++ fractionText (digits.drop 1) keepsPoint ++
    exponentText exponent

/- Digits behind a point without the zeros at their end. -/
def withoutZeros (text : List Char) : List Char :=
  if '.' ∈ text then
    let trimmed := (text.reverse.dropWhile (· = '0')).reverse
    if trimmed.getLast? = some '.' then trimmed.dropLast
    else trimmed
  else text

/- The general notation with some significant digits. -/
def general
    (q : Quotient)
    (digits : Nat)
    (keepsZeros : Bool) : List Char :=
  let places := digits - 1
  let exponent := (q.rounded places).2
  let trim (text : List Char) : List Char :=
    if keepsZeros then text else withoutZeros text
  if -4 ≤ exponent ∧ exponent < max digits 1 then
    trim (q.fixed ((places : Int) - exponent).toNat keepsZeros)
  else
    let text := q.scientific places keepsZeros
    let mantissa := text.takeWhile (· ≠ 'e')
    trim mantissa ++ text.drop mantissa.length

example : String.ofList (fixed ⟨5, 2⟩ 0 false) = "2" := by
  decide +kernel
example : String.ofList (scientific ⟨1, 8⟩ 2 false) =
    "1.25e-01" := by decide +kernel
example : String.ofList (scientific ⟨1, 1000⟩ 0 false) =
    "1e-03" := by decide +kernel
example : String.ofList (general ⟨3, 2⟩ 6 false) = "1.5" := by
  decide +kernel
example : String.ofList (general ⟨10000000, 1⟩ 6 false) =
    "1e+07" := by decide +kernel
example : String.ofList (general ⟨1, 100000⟩ 6 false) =
    "1e-05" := by decide +kernel

end Quotient

end LatencySweep
