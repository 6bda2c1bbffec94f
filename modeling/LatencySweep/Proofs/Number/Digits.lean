import LatencySweep.Number.Text
import LatencySweep.Proofs.Json.Numerals

/-
  Digits and the numbers they stand for.

  Main declarations:
    * `lt_tenTo_length`
    * `tenTo_le_of_lt_length`
    * `digitsValue_decimalDigits`
    * `Decimal.exists_trailingZeros`
-/

namespace LatencySweep

------------------------------------------------------------
-- Powers of Ten
------------------------------------------------------------

theorem tenTo_add (m n : Nat) :
    tenTo (m + n) = tenTo m * tenTo n :=
  Nat.pow_add 10 m n

/- A number has fewer digits than the power of ten that it
   does not reach. -/
theorem lt_tenTo_length (n : Nat) :
    n < tenTo (decimalDigits n).length :=
  (Nat.length_toDigits_le_iff (by decide)
    Nat.length_toDigits_pos).mp (Nat.le_refl _)

/- A positive number reaches the power of ten at each of its
   digits. -/
theorem tenTo_le_of_lt_length
    {n k : Nat}
    (hPos : 0 < n)
    (hDigit : k < (decimalDigits n).length) :
    tenTo k ≤ n := by
  cases k with
  | zero => exact hPos
  | succ k =>
      apply Nat.not_lt.mp
      intro hLess
      have hLength :=
        (Nat.length_toDigits_le_iff (by decide)
          (Nat.succ_pos k)).mpr hLess
      exact Nat.not_lt.mpr hLength hDigit

------------------------------------------------------------
-- Values of Digits
------------------------------------------------------------

theorem digitsValue_eq (digits : List Char) :
    digitsValue digits = Nat.ofDigitChars 10 digits 0 := by
  simp only [digitsValue, digitValue,
    Nat.ofDigitChars_eq_foldl, Nat.mul_comm]

theorem digitsValue_decimalDigits (n : Nat) :
    digitsValue (decimalDigits n) = n := by
  rw [digitsValue_eq]
  exact Nat.ofDigitChars_ten_toDigits

theorem isDigit_of_mem_decimalDigits
    {n : Nat}
    {c : Char}
    (hDigit : c ∈ decimalDigits n) :
    isDigit c = true :=
  isDigit_of_mem_toDigits hDigit

namespace Decimal

theorem isDigit_of_mem_zeros
    {k : Nat}
    {c : Char}
    (hZero : c ∈ zeros k) :
    isDigit c = true := by
  rw [List.eq_of_mem_replicate hZero]
  rfl

/- Zeros in front do not count. -/
theorem digitsValue_zeros_append
    (k : Nat)
    (digits : List Char) :
    digitsValue (zeros k ++ digits) = digitsValue digits := by
  rw [digitsValue_eq, digitsValue_eq,
    Nat.ofDigitChars_append, zeros,
    Nat.ofDigitChars_replicate_zero, Nat.mul_zero]

/- Zeros at the end multiply by a power of ten. -/
theorem digitsValue_append_zeros
    (digits : List Char)
    (k : Nat) :
    digitsValue (digits ++ zeros k) =
      digitsValue digits * tenTo k := by
  rw [digitsValue_eq, digitsValue_eq,
    Nat.ofDigitChars_append, zeros,
    Nat.ofDigitChars_replicate_zero, Nat.mul_comm]
  rfl

/- Only zeros are cut off at the end. -/
theorem exists_trailingZeros (digits : List Char) :
    ∃ k, digits = withoutTrailingZeros digits ++ zeros k := by
  let cut := digits.reverse.takeWhile (· = '0')
  have hCut : cut = zeros cut.length := by
    apply List.eq_replicate_of_mem
    intro c hMem
    simpa using List.all_eq_true.mp List.all_takeWhile c hMem
  refine ⟨cut.length, ?_⟩
  calc digits
      = (cut ++ digits.reverse.dropWhile (· = '0')).reverse := by
        rw [List.takeWhile_append_dropWhile,
          List.reverse_reverse]
    _ = withoutTrailingZeros digits ++ cut.reverse :=
        List.reverse_append
    _ = withoutTrailingZeros digits ++ zeros cut.length := by
        rw [hCut, zeros, List.reverse_replicate, zeros,
          List.length_replicate]

/- The digits that a decimal needs are its own, up to zeros
   at the end. -/
theorem exists_significant (d : Decimal) :
    ∃ k,
      decimalDigits d.coefficient = d.significant ++ zeros k :=
  exists_trailingZeros (decimalDigits d.coefficient)

theorem isDigit_of_mem_significant
    {d : Decimal}
    {c : Char}
    (hDigit : c ∈ d.significant) :
    isDigit c = true := by
  rcases d.exists_significant with ⟨k, hDigits⟩
  apply isDigit_of_mem_decimalDigits (n := d.coefficient)
  rw [hDigits]
  exact List.mem_append_left _ hDigit

end Decimal

end LatencySweep
