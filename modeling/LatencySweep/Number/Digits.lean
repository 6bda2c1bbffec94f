import LatencySweep.Number.Power

/-
  Decimal digits and the whole numbers written with them.

  Key definitions include:
    * `isDigit`
    * `digitsValue`
    * `natural?`
    * `readInt64?`
    * `readUInt64?`
-/

namespace LatencySweep

------------------------------------------------------------
-- Digits
------------------------------------------------------------

/- One of the characters from `0` to `9`. -/
def isDigit (c : Char) : Bool :=
  '0' ≤ c && c ≤ '9'

/- The number that a digit stands for. -/
def digitValue (c : Char) : Nat :=
  c.toNat - '0'.toNat

/- The number that a row of digits stands for. -/
def digitsValue (digits : List Char) : Nat :=
  digits.foldl (fun n c => n * 10 + digitValue c) 0

/- The digits of a number, without leading zeros. -/
def decimalDigits (n : Nat) : List Char :=
  Nat.toDigits 10 n

/- The digits at the front and the text behind them. -/
def spanDigits (text : List Char) : List Char × List Char :=
  (text.takeWhile isDigit, text.dropWhile isDigit)

------------------------------------------------------------
-- Whole Numbers
------------------------------------------------------------

/- A text of one or more digits and nothing else. -/
def natural? (text : List Char) : Option Nat :=
  if text ≠ [] ∧ text.all isDigit then
    some (digitsValue text)
  else none

/-
  A whole number that fits into 64 bits with a sign. The
  digits may follow one plus or minus.
-/
def readInt64? (text : List Char) : Option Int :=
  match text with
  | '-' :: digits => do
      let n ← natural? digits
      if n ≤ twoTo 63 then some (-(n : Int)) else none
  | '+' :: digits => do
      let n ← natural? digits
      if n < twoTo 63 then some (n : Int) else none
  | digits => do
      let n ← natural? digits
      if n < twoTo 63 then some (n : Int) else none

/-
  A whole number that fits into 64 bits. The digits may
  follow one plus.
-/
def readUInt64? (text : List Char) : Option Nat :=
  match text with
  | '+' :: digits => do
      let n ← natural? digits
      if n < twoTo 64 then some n else none
  | digits => do
      let n ← natural? digits
      if n < twoTo 64 then some n else none

example : readInt64? "-0".toList = some 0 := by decide
example : readInt64? "+-1".toList = none := by decide
example : readInt64? "".toList = none := by decide
example :
    readInt64? "-9223372036854775808".toList =
      some (-9223372036854775808) := by decide
example :
    readInt64? "9223372036854775808".toList = none := by
  decide

end LatencySweep
