import LatencySweep.Json.Fault
import LatencySweep.Number.Binary64
import LatencySweep.Number.Digits

/-
  Numbers as JSON writes them.

  A numeral without fraction and exponent is an integer if
  it fits into 64 bits. Every other numeral is a float. Its
  first digits are taken as a whole number of 64 bits,
  which is then scaled by a power of ten, so the float need
  not be the nearest one.

  Key definitions include:
    * `Numeral`
    * `Numeral.scan`
    * `NumeralValue`
    * `Numeral.value`
-/

namespace LatencySweep

------------------------------------------------------------
-- Numerals
------------------------------------------------------------

/- A number by its parts. Without a point there is no
   fraction, and without its letter no exponent. -/
structure Numeral where
  negative : Bool
  whole : List Char
  fraction : Option (List Char)
  exponent : Option Int
  deriving DecidableEq

/- Why a text that starts like a number is none. -/
inductive NumeralFault where
  | textEnd
  | malformed
  deriving DecidableEq

/- The fault met by a reader of numbers. -/
def NumeralFault.fault : NumeralFault → JsonFault
  | textEnd => .endInValue
  | malformed => .invalidNumber

namespace Numeral

------------------------------------------------------------
-- Scanning
------------------------------------------------------------

/- A part of a numeral and the text behind it. -/
abbrev Scan (α : Type) :=
  Except NumeralFault (α × List Char)

/- One or more digits. -/
def scanDigits (text : List Char) : Scan (List Char) :=
  match spanDigits text with
  | ([], []) => .error .textEnd
  | ([], _ :: _) => .error .malformed
  | (digits, rest) => .ok (digits, rest)

/- Digits without a needless zero in front. -/
def scanWhole (text : List Char) : Scan (List Char) :=
  match scanDigits text with
  | .ok ('0' :: _ :: _, _) => .error .malformed
  | result => result

/- A fraction, if there is a point. -/
def scanFraction
    (text : List Char) : Scan (Option (List Char)) :=
  match text with
  | '.' :: rest =>
      match scanDigits rest with
      | .error e => .error e
      | .ok (digits, rest) => .ok (some digits, rest)
  | rest => .ok (none, rest)

/- Whether there is a minus, and the text behind a sign. -/
def spanSign (text : List Char) : Bool × List Char :=
  match text with
  | '-' :: rest => (true, rest)
  | '+' :: rest => (false, rest)
  | rest => (false, rest)

/- The exponent behind its letter. -/
def scanSigned (text : List Char) : Scan Int :=
  match scanDigits (spanSign text).2 with
  | .error e => .error e
  | .ok (digits, rest) =>
      let n : Int := digitsValue digits
      .ok (if (spanSign text).1 then -n else n, rest)

/- An exponent, if there is its letter. -/
def scanExponent (text : List Char) : Scan (Option Int) :=
  match text with
  | c :: rest =>
      if c = 'e' ∨ c = 'E' then
        match scanSigned rest with
        | .error e => .error e
        | .ok (n, rest) => .ok (some n, rest)
      else .ok (none, c :: rest)
  | [] => .ok (none, [])

/- A numeral without its sign. -/
def scanUnsigned
    (negative : Bool)
    (text : List Char) : Scan Numeral :=
  match scanWhole text with
  | .error e => .error e
  | .ok (whole, rest) =>
      match scanFraction rest with
      | .error e => .error e
      | .ok (fraction, rest) =>
          match scanExponent rest with
          | .error e => .error e
          | .ok (exponent, rest) =>
              .ok ({ negative, whole, fraction, exponent },
                rest)

/- The numeral in front of a text. -/
def scan (text : List Char) : Scan Numeral :=
  match text with
  | '-' :: rest => scanUnsigned true rest
  | rest => scanUnsigned false rest

------------------------------------------------------------
-- What a Scan Leaves
------------------------------------------------------------

theorem length_scanDigits_le
    {text digits rest : List Char}
    (h : scanDigits text = .ok (digits, rest)) :
    rest.length ≤ text.length := by
  unfold scanDigits spanDigits at h
  split at h
  · exact absurd h (by simp)
  · exact absurd h (by simp)
  · simp only [Except.ok.injEq, Prod.mk.injEq] at h
    rename_i hSpan
    rw [← h.2, ← (Prod.mk.inj hSpan).2]
    exact (List.dropWhile_sublist _).length_le

theorem length_scanWhole_le
    {text digits rest : List Char}
    (h : scanWhole text = .ok (digits, rest)) :
    rest.length ≤ text.length := by
  unfold scanWhole at h
  split at h
  · exact absurd h (by simp)
  · exact length_scanDigits_le h

theorem length_scanFraction_le
    {text rest : List Char} {fraction : Option (List Char)}
    (h : scanFraction text = .ok (fraction, rest)) :
    rest.length ≤ text.length := by
  unfold scanFraction at h
  split at h
  · split at h
    · exact absurd h (by simp)
    · rename_i hDigits
      simp only [Except.ok.injEq, Prod.mk.injEq] at h
      have := length_scanDigits_le hDigits
      simp only [← h.2, List.length_cons]
      omega
  · simp only [Except.ok.injEq, Prod.mk.injEq] at h
    simp [← h.2]

theorem length_spanSign_le (text : List Char) :
    (spanSign text).2.length ≤ text.length := by
  unfold spanSign
  split <;> simp

theorem length_scanSigned_le
    {text rest : List Char} {n : Int}
    (h : scanSigned text = .ok (n, rest)) :
    rest.length ≤ text.length := by
  unfold scanSigned at h
  split at h
  · exact absurd h (by simp)
  · rename_i hDigits
    have hLe := length_scanDigits_le hDigits
    simp only [Except.ok.injEq, Prod.mk.injEq] at h
    rw [← h.2]
    exact Nat.le_trans hLe (length_spanSign_le text)

theorem length_scanExponent_le
    {text rest : List Char} {exponent : Option Int}
    (h : scanExponent text = .ok (exponent, rest)) :
    rest.length ≤ text.length := by
  unfold scanExponent at h
  split at h
  · split at h
    · split at h
      · exact absurd h (by simp)
      · rename_i hSigned
        have hLe := length_scanSigned_le hSigned
        simp only [Except.ok.injEq, Prod.mk.injEq] at h
        simp only [← h.2, List.length_cons]
        omega
    · simp only [Except.ok.injEq, Prod.mk.injEq] at h
      simp [← h.2]
  · simp only [Except.ok.injEq, Prod.mk.injEq] at h
    simp [← h.2]

theorem length_scanUnsigned_le
    {negative : Bool} {text rest : List Char}
    {numeral : Numeral}
    (h : scanUnsigned negative text = .ok (numeral, rest)) :
    rest.length ≤ text.length := by
  unfold scanUnsigned at h
  split at h
  · exact absurd h (by simp)
  · split at h
    · exact absurd h (by simp)
    · split at h
      · exact absurd h (by simp)
      · rename_i hWhole _ _ _ hFraction _ _ _ hExponent
        have hW := length_scanWhole_le hWhole
        have hF := length_scanFraction_le hFraction
        have hE := length_scanExponent_le hExponent
        simp only [Except.ok.injEq, Prod.mk.injEq] at h
        rw [← h.2]
        omega

theorem length_scan_le
    {text rest : List Char} {numeral : Numeral}
    (h : scan text = .ok (numeral, rest)) :
    rest.length ≤ text.length := by
  unfold scan at h
  split at h
  · have := length_scanUnsigned_le h
    simp only [List.length_cons]
    omega
  · exact length_scanUnsigned_le h

end Numeral

------------------------------------------------------------
-- Values
------------------------------------------------------------

/- What a numeral stands for. -/
inductive NumeralValue where
  | integer (n : Int)
  | float (x : Binary64)
  | outOfRange
  deriving DecidableEq

namespace Numeral

/- Take in digits as long as the number fits into 64 bits;
   also the digits that are left. -/
def absorb (n : Nat) : List Char → Nat × List Char
  | [] => (n, [])
  | digit :: rest =>
      let next := n * 10 + digitValue digit
      if next < twoTo 64 then absorb next rest
      else (n, digit :: rest)

/- The largest power of ten by which is scaled at once. -/
def maxScale : Nat := 308

/- A power of ten as a float. -/
def scaleOf (n : Nat) : Binary64 :=
  Binary64.ofNat (tenTo n)

/- Divide by a power of ten, in steps if it is large. -/
def scaleDown (x : Binary64) (n : Nat) : Binary64 :=
  if n ≤ maxScale then x / scaleOf n
  else if x.IsZero then x
  else scaleDown (x / scaleOf maxScale) (n - maxScale)
termination_by n
decreasing_by
  simp only [maxScale] at *
  omega

/- Multiply by a power of ten, if the result is finite. -/
def scaleUp? (x : Binary64) (n : Nat) : Option Binary64 :=
  if x.IsZero then some x
  else if maxScale < n then none
  else (some (x * scaleOf n)).filter fun y => y.IsFinite

/- A whole number scaled by a power of ten. -/
def scale? (n : Nat) (exponent : Int) : Option Binary64 :=
  if exponent < 0 then
    some (scaleDown (Binary64.ofNat n) (-exponent).toNat)
  else scaleUp? (Binary64.ofNat n) exponent.toNat

/- A float with the sign of the numeral. -/
def signed (numeral : Numeral) (x : Binary64) : Binary64 :=
  if numeral.negative then x.neg else x

/- The value of a numeral with fraction, exponent or many
   digits. -/
def floatValue (numeral : Numeral) : NumeralValue :=
  let (whole, skipped) := absorb 0 numeral.whole
  let fraction := numeral.fraction.getD []
  let (n, left) := absorb whole fraction
  let shift : Int := skipped.length
  let places : Int := fraction.length - left.length
  match scale? n (shift - places + numeral.exponent.getD 0) with
  | none => .outOfRange
  | some x => .float (numeral.signed x)

/- The value of a numeral that is a whole number of 64
   bits. A negative zero and what is too small for a signed
   integer become floats. -/
def wholeValue (numeral : Numeral) (n : Nat) : NumeralValue :=
  if ¬ numeral.negative then .integer n
  else if n = 0 ∨ twoTo 63 < n then
    .float (numeral.signed (Binary64.ofNat n))
  else .integer (-(n : Int))

/- The value of a numeral. -/
def value (numeral : Numeral) : NumeralValue :=
  match numeral.fraction, numeral.exponent,
      absorb 0 numeral.whole with
  | none, none, (n, []) => numeral.wholeValue n
  | _, _, _ => numeral.floatValue

example :
    (scan "-12]".toList).toOption.map
        (fun r => (r.1.value, r.2)) =
      some (.integer (-12), [']']) := by
  decide +kernel
example :
    (scan "18446744073709551616".toList).toOption.map
        (fun r => r.1.value) =
      some (.float (Binary64.ofNat (twoTo 64))) := by
  decide +kernel
example :
    (scan "1e309".toList).toOption.map (fun r => r.1.value) =
      some .outOfRange := by
  decide +kernel
example : scan "01".toList = .error .malformed := rfl
example : scan "1.".toList = .error .textEnd := rfl

end Numeral

end LatencySweep
