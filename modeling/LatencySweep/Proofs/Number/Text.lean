import LatencySweep.Proofs.Number.Decimal

/-
  A float is read back from its text.

  The text of a float is its shortest decimal, laid out as
  digits with at most one point among them. The zeros that
  are cut off or filled in do not change the value, so what
  is read is nearest to the float again.

  Main declarations:
    * `IsNumeral`
    * `Binary64.read?_signed`
    * `Decimal.exists_isNumeral`
    * `Binary64.IsCanonical`
    * `Binary64.read?_toText`
-/

namespace LatencySweep

------------------------------------------------------------
-- Numerals
------------------------------------------------------------

/- The text has digits in front of an optional point and
   behind it. -/
structure IsNumeral
    (text whole fraction : List Char) : Prop where
  whole_ne_nil : whole ≠ []
  whole_digits : ∀ c ∈ whole, isDigit c = true
  fraction_digits : ∀ c ∈ fraction, isDigit c = true
  text_eq :
    text = whole ∧ fraction = [] ∨
      text = whole ++ '.' :: fraction

theorem spanDigits_append
    {digits rest : List Char}
    (hDigits : ∀ c ∈ digits, isDigit c = true)
    (hRest : ∀ c, rest.head? = some c → isDigit c = false) :
    spanDigits (digits ++ rest) = (digits, rest) := by
  have hStretch := stretch_append hDigits hRest
  rw [spanDigits, hStretch.1, hStretch.2]

/- A text of digits only. -/
theorem spanDigits_self
    {digits : List Char}
    (hDigits : ∀ c ∈ digits, isDigit c = true) :
    spanDigits digits = (digits, []) := by
  have hSpan : spanDigits (digits ++ []) = (digits, []) :=
    spanDigits_append hDigits (fun _ hNone => by cases hNone)
  rwa [List.append_nil] at hSpan

namespace IsNumeral

variable {text whole fraction : List Char}

theorem readDecimal?_eq
    (hNumeral : IsNumeral text whole fraction)
    (negative : Bool) :
    Binary64.readDecimal? negative text =
      some (Binary64.ofDecimal negative
        (digitsValue (whole ++ fraction))
        (-(fraction.length : Int))) := by
  have hSome : ¬ (whole = [] ∧ fraction = []) := fun hNil =>
    hNumeral.whole_ne_nil hNil.1
  rcases hNumeral.text_eq with ⟨rfl, rfl⟩ | rfl
  · unfold Binary64.readDecimal?
    rw [spanDigits_self hNumeral.whole_digits]
    dsimp only [Binary64.spanFraction, Binary64.readScale?]
    rw [if_neg hSome]
    rfl
  · have hFraction :
        Binary64.spanFraction ('.' :: fraction) =
          (fraction, []) :=
      spanDigits_self hNumeral.fraction_digits
    unfold Binary64.readDecimal?
    rw [spanDigits_append hNumeral.whole_digits
      (fun c hHead => by cases hHead; rfl)]
    dsimp only
    rw [hFraction]
    dsimp only [Binary64.readScale?]
    rw [if_neg hSome, Option.map_some, Int.zero_sub]

/- A numeral starts with a digit. -/
theorem exists_eq_cons
    (hNumeral : IsNumeral text whole fraction) :
    ∃ c rest, text = c :: rest ∧ isDigit c = true := by
  cases hWhole : whole with
  | nil => exact absurd hWhole hNumeral.whole_ne_nil
  | cons c rest =>
      have hDigit : isDigit c = true := by
        apply hNumeral.whole_digits
        rw [hWhole]
        exact List.mem_cons_self
      rcases hNumeral.text_eq with ⟨rfl, -⟩ | rfl
      · exact ⟨c, rest, hWhole, hDigit⟩
      · rw [hWhole]
        exact ⟨c, _, rfl, hDigit⟩

/- A numeral has digits and points only. -/
theorem isDigit_or_eq
    (hNumeral : IsNumeral text whole fraction)
    {c : Char}
    (hMem : c ∈ text) :
    isDigit c = true ∨ c = '.' := by
  rcases hNumeral.text_eq with ⟨rfl, -⟩ | rfl
  · exact Or.inl (hNumeral.whole_digits c hMem)
  · rcases List.mem_append.mp hMem with hWhole | hBehind
    · exact Or.inl (hNumeral.whole_digits c hWhole)
    · rcases List.mem_cons.mp hBehind with hPoint | hFraction
      · exact Or.inr hPoint
      · exact Or.inl (hNumeral.fraction_digits c hFraction)

end IsNumeral

------------------------------------------------------------
-- Reading Numerals
------------------------------------------------------------

namespace Binary64

theorem toLower_of_isDigit
    {c : Char}
    (hDigit : isDigit c = true) :
    c.toLower = c := by
  rw [isDigit, Bool.and_eq_true, decide_eq_true_eq,
    decide_eq_true_eq] at hDigit
  unfold Char.toLower
  rw [dif_neg]
  rintro ⟨hUpper, -⟩
  have hOrder : 'A' ≤ '9' :=
    UInt32.le_trans hUpper hDigit.2
  exact absurd hOrder (by decide)

/- A character that a decimal without sign may start
   with. -/
def StartsDecimal (c : Char) : Prop :=
  isDigit c = true ∨ c = '.'

instance (c : Char) : Decidable (StartsDecimal c) := by
  unfold StartsDecimal
  infer_instance

/- What starts like a decimal is neither an infinity nor a
   NaN. -/
theorem readUnsigned?_cons
    (negative : Bool)
    {c : Char}
    (hStarts : StartsDecimal c)
    (rest : List Char) :
    readUnsigned? negative (c :: rest) =
      readDecimal? negative (c :: rest) := by
  have hLower : c.toLower = c := by
    rcases hStarts with hDigit | rfl
    · exact toLower_of_isDigit hDigit
    · rfl
  have hNot (word : String)
      (hWord : ¬ StartsDecimal (word.toList.headD '.')) :
      (c :: rest).map Char.toLower ≠ word.toList := by
    intro hEq
    rw [← hEq, List.map_cons, hLower] at hWord
    exact hWord hStarts
  unfold readUnsigned?
  dsimp only
  rw [if_neg, if_neg]
  · exact hNot "nan" (by decide)
  · rintro (hWord | hWord)
    · exact hNot "inf" (by decide) hWord
    · exact hNot "infinity" (by decide) hWord

/- There is no sign in front of it. -/
theorem read?_cons
    {c : Char}
    (hStarts : StartsDecimal c)
    (rest : List Char) :
    read? (c :: rest) = readDecimal? false (c :: rest) := by
  rw [← readUnsigned?_cons false hStarts]
  unfold read?
  split
  next hMinus =>
    cases hMinus
    rcases hStarts with hDigit | hPoint
    · cases hDigit
    · cases hPoint
  next hPlus =>
    cases hPlus
    rcases hStarts with hDigit | hPoint
    · cases hDigit
    · cases hPoint
  next => rfl

/- The same behind a sign. -/
theorem read?_signed
    (negative : Bool)
    {text whole fraction : List Char}
    (hNumeral : IsNumeral text whole fraction) :
    read? (if negative then '-' :: text else text) =
      some (ofDecimal negative
        (digitsValue (whole ++ fraction))
        (-(fraction.length : Int))) := by
  rcases hNumeral.exists_eq_cons with ⟨c, rest, rfl, hDigit⟩
  rw [← hNumeral.readDecimal?_eq]
  cases negative with
  | true => exact readUnsigned?_cons true (Or.inl hDigit) rest
  | false => exact read?_cons (Or.inl hDigit) rest

end Binary64

------------------------------------------------------------
-- Layouts
------------------------------------------------------------

namespace Decimal

variable {digits : List Char}

/- A point in front of digits and zeros. -/
theorem isNumeral_behind
    (hDigits : ∀ c ∈ digits, isDigit c = true)
    (filled : Nat) :
    IsNumeral (['0', '.'] ++ zeros filled ++ digits) ['0']
      (zeros filled ++ digits) where
  whole_ne_nil := List.cons_ne_nil _ _
  whole_digits := by
    intro c hMem
    rw [List.mem_singleton.mp hMem]
    rfl
  fraction_digits := by
    intro c hMem
    rcases List.mem_append.mp hMem with hZero | hDigit
    · exact isDigit_of_mem_zeros hZero
    · exact hDigits c hDigit
  text_eq := by
    right
    rw [List.append_assoc]
    rfl

/- No point, and zeros behind the digits. -/
theorem isNumeral_whole
    (hDigits : ∀ c ∈ digits, isDigit c = true)
    {filled : Nat}
    (hSome : 0 < digits.length + filled) :
    IsNumeral (digits ++ zeros filled ++ [])
      (digits ++ zeros filled) [] where
  whole_ne_nil := by
    apply List.ne_nil_of_length_pos
    rwa [List.length_append, zeros, List.length_replicate]
  whole_digits := by
    intro c hMem
    rcases List.mem_append.mp hMem with hDigit | hZero
    · exact hDigits c hDigit
    · exact isDigit_of_mem_zeros hZero
  fraction_digits := fun _ hNone => by cases hNone
  text_eq := Or.inl ⟨List.append_nil _, rfl⟩

/- A point among the digits. -/
theorem isNumeral_split
    (hDigits : ∀ c ∈ digits, isDigit c = true)
    {point : Nat}
    (hPoint : 0 < point)
    (hSome : 0 < digits.length) :
    IsNumeral (digits.take point ++ ['.'] ++ digits.drop point)
      (digits.take point) (digits.drop point) where
  whole_ne_nil := by
    apply List.ne_nil_of_length_pos
    rw [List.length_take]
    exact Nat.lt_min.mpr ⟨hPoint, hSome⟩
  whole_digits := fun c hMem =>
    hDigits c (List.mem_of_mem_take hMem)
  fraction_digits := fun c hMem =>
    hDigits c (List.mem_of_mem_drop hMem)
  text_eq := by
    right
    rw [List.append_assoc]
    rfl

/- The digits that a decimal needs have its value, with the
   zeros that are cut off in the exponent. -/
theorem exists_significant_value (d : Decimal) :
    ∃ cut : Nat,
      d.pointPosition =
          d.significant.length + cut + d.exponent ∧
        SameValue
          ⟨digitsValue d.significant, d.exponent + cut⟩ d := by
  rcases d.exists_significant with ⟨cut, hDigits⟩
  refine ⟨cut, ?_, ?_⟩
  · unfold pointPosition
    rw [hDigits, List.length_append, zeros,
      List.length_replicate, Nat.cast_add]
  · have hCoefficient :
        d.coefficient =
          digitsValue d.significant * tenTo cut := by
      rw [← digitsValue_append_zeros, ← hDigits,
        digitsValue_decimalDigits]
    have hShift :=
      sameValue_shift (digitsValue d.significant) cut d.exponent
    rwa [← hCoefficient] at hShift

/- A positional text is a numeral of the same value. -/
theorem exists_isNumeral (d : Decimal) :
    ∃ whole fraction,
      IsNumeral (d.positional []) whole fraction ∧
        SameValue
          ⟨digitsValue (whole ++ fraction), -fraction.length⟩
          d := by
  rcases d.exists_significant_value with ⟨cut, hPoint, hValue⟩
  have hDigits : ∀ c ∈ d.significant, isDigit c = true :=
    fun _ hMem => isDigit_of_mem_significant hMem
  unfold positional
  dsimp only
  split
  next hSmall =>
    refine ⟨_, _, isNumeral_behind hDigits _, ?_⟩
    convert hValue using 2
    · exact
        (digitsValue_zeros_append 1 _).trans
          (digitsValue_zeros_append _ _)
    · rw [List.length_append, zeros, List.length_replicate]
      omega
  next hLarge =>
    split
    next hWhole =>
      refine
        ⟨_, _, isNumeral_whole hDigits (by omega),
          SameValue.trans ?_ hValue⟩
      have hShift :=
        sameValue_shift (digitsValue d.significant)
          (d.pointPosition.toNat - d.significant.length) 0
      rw [List.append_nil, digitsValue_append_zeros]
      convert hShift.symm using 2
      · rfl
      · omega
    next hMiddle =>
      refine
        ⟨_, _,
          isNumeral_split hDigits (by omega) (by omega), ?_⟩
      convert hValue using 2
      · rw [List.take_append_drop]
      · rw [List.length_drop]
        omega

end Decimal

------------------------------------------------------------
-- Floats
------------------------------------------------------------

namespace Binary64

/- The one text of all NaNs stands for the one that
   operations produce. -/
def IsCanonical (x : Binary64) : Prop :=
  x.IsNaN → x = nan false

/- A canonical float is read back from its text. -/
theorem read?_toText
    {x : Binary64}
    (hCanonical : x.IsCanonical) :
    read? x.toText.toList = some x := by
  unfold toText signed
  by_cases hIsNaN : x.IsNaN
  · rw [if_pos hIsNaN, hCanonical hIsNaN]
    rfl
  rw [if_neg hIsNaN, String.toList_ofList]
  by_cases hFinite : x.IsFinite
  · rw [if_pos hFinite]
    by_cases hZero : x.IsZero
    · have hMagnitude : x.magnitude = 0 := hZero
      have hSame : x = zero x.negative :=
        eq_of_magnitude rfl hMagnitude
      rw [if_pos hZero, hSame]
      cases x.negative with
      | true => rfl
      | false => rfl
    · have hPos : 0 < x.magnitude := Nat.pos_of_ne_zero hZero
      rcases (shortest .upper x.magnitude).exists_isNumeral
        with ⟨whole, fraction, hNumeral, hValue⟩
      have hNearest :=
        (isNearest_shortest .upper hPos).congr hValue
      rw [if_neg hZero, read?_signed x.negative hNumeral]
      exact
        congrArg some (ofDecimal_eq hFinite hNearest)
  · have hMagnitude : x.magnitude = infinityMagnitude :=
      Nat.le_antisymm (Nat.not_lt.mp hIsNaN)
        (Nat.not_lt.mp hFinite)
    have hSame : x = infinity x.negative :=
      eq_of_magnitude rfl hMagnitude
    rw [if_neg hFinite, hSame]
    cases x.negative with
    | true => rfl
    | false => rfl

------------------------------------------------------------
-- Results of Operations
------------------------------------------------------------

theorem isCanonical_of_not_isNaN
    {x : Binary64}
    (hNumber : ¬ x.IsNaN) :
    x.IsCanonical := fun hIsNaN =>
  absurd hIsNaN hNumber

theorem IsFinite.not_isNaN
    {x : Binary64}
    (hFinite : x.IsFinite) :
    ¬ x.IsNaN :=
  Nat.lt_asymm hFinite

theorem not_isNaN_ofUnits
    (negative : Bool)
    (num den : Nat) :
    ¬ (ofUnits negative num den).IsNaN :=
  Nat.not_lt.mpr (Nat.min_le_left _ _)

/- The product of two numbers is canonical. -/
theorem isCanonical_mul
    {x y : Binary64}
    (hX : ¬ x.IsNaN)
    (hY : ¬ y.IsNaN) :
    (x * y).IsCanonical := by
  change (mul x y).IsCanonical
  unfold mul
  dsimp only
  rw [if_neg hX, if_neg hY]
  split
  next =>
    exact isCanonical_of_not_isNaN (not_isNaN_ofUnits _ _ _)
  next =>
    split
    next => exact fun _ => rfl
    next =>
      exact isCanonical_of_not_isNaN (Nat.lt_irrefl _)

/- The quotient of two numbers is canonical. -/
theorem isCanonical_div
    {x y : Binary64}
    (hX : ¬ x.IsNaN)
    (hY : ¬ y.IsNaN) :
    (x / y).IsCanonical := by
  have hInfinity (negative : Bool) :
      (infinity negative).IsCanonical :=
    isCanonical_of_not_isNaN (Nat.lt_irrefl _)
  have hZero (negative : Bool) :
      (zero negative).IsCanonical :=
    isCanonical_of_not_isNaN (Nat.not_lt_zero _)
  change (div x y).IsCanonical
  unfold div
  dsimp only
  rw [if_neg hX, if_neg hY]
  split
  next =>
    split
    next =>
      split
      next => exact fun _ => rfl
      next => exact hInfinity _
    next =>
      split
      next =>
        exact isCanonical_of_not_isNaN (not_isNaN_ofUnits _ _ _)
      next => exact hZero _
  next =>
    split
    next => exact hInfinity _
    next => exact fun _ => rfl

end Binary64

end LatencySweep
