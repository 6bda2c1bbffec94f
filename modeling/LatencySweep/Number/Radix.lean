import LatencySweep.Number.Digits

/-
  Whole numbers in other notations than the decimal one.

  A number may be written with a leading `0` in octal and
  with a leading `0x` in hexadecimal digits.

  Key definitions include:
    * `radixValue?`
    * `spanRadix`
    * `Numeral`
    * `Numeral.span`
    * `wrap64`
-/

namespace LatencySweep

------------------------------------------------------------
-- Digits
------------------------------------------------------------

/- The value of a digit in a notation with up to 36
   digits. -/
def radixValue? (base : Nat) (c : Char) : Option Nat :=
  let value? : Option Nat :=
    if isDigit c then some (digitValue c)
    else if 'a' ≤ c ∧ c ≤ 'z' then
      some (c.toNat - 'a'.toNat + 10)
    else if 'A' ≤ c ∧ c ≤ 'Z' then
      some (c.toNat - 'A'.toNat + 10)
    else none
  value?.filter (· < base)

/- The value of the digits in front of a text, at most the
   given number of them, and the text behind them. -/
def spanRadixUpTo
    (base : Nat) : Nat → Nat → List Char → Nat × List Char
  | 0, value, text => (value, text)
  | _ + 1, value, [] => (value, [])
  | n + 1, value, c :: text =>
      match radixValue? base c with
      | none => (value, c :: text)
      | some digit =>
          spanRadixUpTo base n (value * base + digit) text

/- The value of all digits in front of a text, and the text
   behind them. -/
def spanRadix
    (base : Nat)
    (text : List Char) : Nat × List Char :=
  spanRadixUpTo base text.length 0 text

/- The text starts with a digit. -/
def startsWithDigit (base : Nat) (text : List Char) : Bool :=
  match text with
  | [] => false
  | c :: _ => (radixValue? base c).isSome

/- The digits of a number. -/
def radixDigits
    (base : Nat)
    (upper : Bool)
    (n : Nat) : List Char :=
  let digits := Nat.toDigits base n
  if upper then digits.map Char.toUpper else digits

------------------------------------------------------------
-- Numerals
------------------------------------------------------------

/- A blank that may stand in front of a number. -/
def isSpaceOrControl (c : Char) : Bool :=
  c = ' ' || ('\t' ≤ c && c ≤ '\r')

namespace Numeral

/- The number without a sign in front of a text, in the
   notation that its start tells. -/
def spanUnsigned? (text : List Char) :
    Option (Nat × List Char) :=
  match text with
  | '0' :: x :: rest =>
      if (x = 'x' ∨ x = 'X') ∧ startsWithDigit 16 rest then
        some (spanRadix 16 rest)
      else some (spanRadix 8 ('0' :: x :: rest))
  | text =>
      if startsWithDigit 10 text then some (spanRadix 10 text)
      else none

/- The number in front of a text, behind blanks and one
   sign, and the text behind it. -/
def span? (text : List Char) : Option (Int × List Char) :=
  match text.dropWhile isSpaceOrControl with
  | '-' :: rest =>
      (spanUnsigned? rest).map fun r => (-(r.1 : Int), r.2)
  | '+' :: rest =>
      (spanUnsigned? rest).map fun r => ((r.1 : Int), r.2)
  | rest =>
      (spanUnsigned? rest).map fun r => ((r.1 : Int), r.2)

/- The decimal number in front of a text. -/
def spanDecimal? (text : List Char) :
    Option (Int × List Char) :=
  let unsigned? (rest : List Char) : Option (Int × List Char) :=
    if startsWithDigit 10 rest then
      let (n, behind) := spanRadix 10 rest
      some ((n : Int), behind)
    else none
  match text.dropWhile isSpaceOrControl with
  | '-' :: rest =>
      (unsigned? rest).map fun r => (-r.1, r.2)
  | '+' :: rest => unsigned? rest
  | rest => unsigned? rest

example : span? "0x1fz".toList = some (31, ['z']) := by
  decide +kernel
example : span? " -017".toList = some (-15, []) := by
  decide +kernel
example : span? "08".toList = some (0, ['8']) := by
  decide +kernel

end Numeral

------------------------------------------------------------
-- Words of 64 Bits
------------------------------------------------------------

/- The number with a sign that the lower 64 bits of a number
   stand for. -/
def wrap64 (n : Int) : Int :=
  let low := n % (twoTo 64 : Int)
  if low < (twoTo 63 : Int) then low
  else low - (twoTo 64 : Int)

/- The bits of a number with a sign. -/
def bits64 (n : Int) : Nat :=
  (n % (twoTo 64 : Int)).toNat

/- The nearest number with a sign that has 64 bits. -/
def clamp64 (n : Int) : Int :=
  if n < -(twoTo 63 : Int) then -(twoTo 63 : Int)
  else if n < (twoTo 63 : Int) then n
  else (twoTo 63 : Int) - 1

example : wrap64 (twoTo 63) = -(twoTo 63 : Int) := by
  decide +kernel

end LatencySweep
