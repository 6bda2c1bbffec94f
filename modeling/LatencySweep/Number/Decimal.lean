import LatencySweep.Number.Binary64
import LatencySweep.Number.Digits

/-
  Reading a float from text.

  A number is an optional sign followed by an infinity, a
  NaN or a decimal. A decimal has digits on at least one
  side of an optional point and an optional exponent. The
  result is the float nearest to the decimal.

  Key definitions include:
    * `Binary64.ofDecimal`
    * `Binary64.read?`
-/

namespace LatencySweep

namespace Binary64

------------------------------------------------------------
-- Nearest Float of a Decimal
------------------------------------------------------------

/-
  The float nearest to `digits * 10 ^ exponent`. Decimals
  with more than 310 digits before the point are infinite,
  and those whose first 330 places are empty are zero, so
  no power of ten grows with the exponent written.
-/
def ofDecimal
    (negative : Bool)
    (digits : Nat)
    (exponent : Int) : Binary64 :=
  let places := (decimalDigits digits).length + exponent
  if digits = 0 ∨ places < -330 then zero negative
  else if 310 < places then infinity negative
  else if 0 ≤ exponent then
    ofRatio negative (digits * tenTo exponent.toNat) 1
  else
    ofRatio negative digits (tenTo (-exponent).toNat)

------------------------------------------------------------
-- Decimals
------------------------------------------------------------

/- The exponent behind its letter: a sign and digits. -/
def readExponent? (text : List Char) : Option Int :=
  match text with
  | '-' :: digits => (natural? digits).map fun n => -(n : Int)
  | '+' :: digits => (natural? digits).map fun n => (n : Int)
  | digits => (natural? digits).map fun n => (n : Int)

/- What may stand behind the digits of a decimal. -/
def readScale? (text : List Char) : Option Int :=
  match text with
  | [] => some 0
  | 'e' :: rest => readExponent? rest
  | 'E' :: rest => readExponent? rest
  | _ => none

/- The digits after an optional point, and the rest. -/
def spanFraction
    (text : List Char) : List Char × List Char :=
  match text with
  | '.' :: rest => spanDigits rest
  | rest => ([], rest)

/- A decimal without sign. -/
def readDecimal?
    (negative : Bool)
    (text : List Char) : Option Binary64 :=
  let (whole, afterWhole) := spanDigits text
  let (fraction, afterFraction) := spanFraction afterWhole
  if whole = [] ∧ fraction = [] then none
  else
    (readScale? afterFraction).map fun scale =>
      ofDecimal negative (digitsValue (whole ++ fraction))
        (scale - fraction.length)

------------------------------------------------------------
-- Floats
------------------------------------------------------------

/- A number behind its sign. -/
def readUnsigned?
    (negative : Bool)
    (text : List Char) : Option Binary64 :=
  let word := text.map Char.toLower
  if word = "inf".toList ∨ word = "infinity".toList then
    some (infinity negative)
  else if word = "nan".toList then some (nan negative)
  else readDecimal? negative text

/- The float that a text stands for. -/
def read? (text : List Char) : Option Binary64 :=
  match text with
  | '-' :: rest => readUnsigned? true rest
  | '+' :: rest => readUnsigned? false rest
  | rest => readUnsigned? false rest

example :
    (read? "1e23".toList).map magnitude =
      some 0x44B52D02C7E14AF6 := by
  decide +kernel
example : read? "-iNf".toList = some (infinity true) := by
  decide +kernel
example : read? ".".toList = none := by decide +kernel
example : read? "1e".toList = none := by decide +kernel
example :
    read? ".5".toList = read? "5.e-1".toList := by
  decide +kernel
example :
    (read? "4.9e-324".toList).map magnitude = some 1 := by
  decide +kernel

end Binary64

end LatencySweep
