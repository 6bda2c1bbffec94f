import LatencySweep.Proofs.Number.Text
import Mathlib.Algebra.Order.Field.Basic
import Mathlib.Data.Rat.Floor
import Mathlib.Data.Rat.Cast.Order
import Mathlib.Tactic.FieldSimp
import Mathlib.Tactic.Linarith
import Mathlib.Tactic.Positivity

/-
  The numbers that floats stand for, and the float nearest
  to a number.

  A finite float stands for a rational number. A float is
  the rounding of a number if no finite float is closer to
  it, and one that is as close only leaves an even choice.
  Natural numbers up to `2 ^ 53` are floats themselves, and
  quotients of floats are rounded to the nearest one.

  Main declarations:
    * `Binary64.toRat`
    * `Binary64.IsRoundingOf`
    * `Binary64.IsNearest.isRoundingOf`
    * `Binary64.isRoundingOf_ofNat`
    * `Binary64.toRat_ofNat`
    * `Binary64.isRoundingOf_div`
    * `Binary64.IsRoundingOf.toRat_lt`
-/

namespace LatencySweep

namespace Binary64

variable {x y : Binary64} {q : ℚ}

------------------------------------------------------------
-- Values
------------------------------------------------------------

/- The number that a finite float stands for. -/
def toRat (x : Binary64) : ℚ :=
  (if x.negative then -1 else 1) * (x.units / unitsPerOne)

theorem unitsPerOne_pos : 0 < unitsPerOne :=
  twoTo_pos 1074

theorem cast_unitsPerOne_pos : (0 : ℚ) < unitsPerOne :=
  Nat.cast_pos.mpr unitsPerOne_pos

theorem toRat_of_positive (hSign : x.negative = false) :
    x.toRat = x.units / unitsPerOne := by
  rw [toRat, hSign, if_neg Bool.false_ne_true, one_mul]

/- A negative float stands for no positive number. -/
theorem toRat_of_negative (hSign : x.negative = true) :
    x.toRat ≤ 0 := by
  have hUnits : (0 : ℚ) ≤ x.units / unitsPerOne :=
    div_nonneg (Nat.cast_nonneg _) cast_unitsPerOne_pos.le
  rw [toRat, hSign, if_pos rfl]
  linarith

/- Without its sign, a float is known by its number. -/
theorem eq_of_toRat_eq
    (hX : x.negative = false)
    (hY : y.negative = false)
    (hSame : x.toRat = y.toRat) :
    x = y := by
  rw [toRat_of_positive hX, toRat_of_positive hY,
    div_left_inj' cast_unitsPerOne_pos.ne', Nat.cast_inj] at hSame
  exact
    eq_of_magnitude (hX.trans hY.symm)
      (strictMono_unitsOf.injective hSame)

------------------------------------------------------------
-- Nearest Floats
------------------------------------------------------------

/-
  No finite float is closer to the number. If another one is
  as close, the last bit of this one is even.
-/
structure IsRoundingOf (x : Binary64) (q : ℚ) : Prop where
  isFinite : x.IsFinite
  closest :
    ∀ y : Binary64,
      y.IsFinite → |x.toRat - q| ≤ |y.toRat - q|
  tie :
    ∀ y : Binary64,
      y.IsFinite →
        |y.toRat - q| = |x.toRat - q| →
          y.toRat = x.toRat ∨ x.magnitude % 2 = 0

/- Of two numbers, the one on the same side of the midpoint
   is closer. -/
theorem abs_sub_le_abs_sub_iff (a b q : ℚ) :
    |b - q| ≤ |a - q| ↔ 0 ≤ (a - b) * (a + b - 2 * q) := by
  have hSquares :
      (a - q) ^ 2 - (b - q) ^ 2 =
        (a - b) * (a + b - 2 * q) := by
    ring
  rw [← sq_le_sq, ← sub_nonneg, hSquares]

theorem abs_sub_ne_abs_sub
    {a b q : ℚ}
    (hNe : a ≠ b)
    (hMid : a + b ≠ 2 * q) :
    |b - q| ≠ |a - q| := by
  intro hSame
  have hLe := (abs_sub_le_abs_sub_iff a b q).mp hSame.le
  have hGe := (abs_sub_le_abs_sub_iff b a q).mp hSame.ge
  have hProduct : (a - b) * (a + b - 2 * q) ≠ 0 :=
    mul_ne_zero (sub_ne_zero.mpr hNe) (sub_ne_zero.mpr hMid)
  apply hProduct
  linarith

/- The midpoints to the floats around a positive one. -/
def lowMid (x : Binary64) : ℚ :=
  (unitsOf (x.magnitude - 1) + unitsOf x.magnitude : ℕ) /
    unitsPerOne

def highMid (x : Binary64) : ℚ :=
  (unitsOf x.magnitude + unitsOf (x.magnitude + 1) : ℕ) /
    unitsPerOne

/- Any other float is not before one of the two around. -/
theorem apart_of_ne
    (hSign : x.negative = false)
    (hNe : y.toRat ≠ x.toRat) :
    (y.toRat < x.toRat ∧ y.toRat + x.toRat ≤ x.lowMid) ∨
      (x.toRat < y.toRat ∧
        x.highMid ≤ x.toRat + y.toRat) := by
  have hUnit := cast_unitsPerOne_pos
  have hMono := strictMono_unitsOf.monotone
  have hX := toRat_of_positive hSign
  have hSum (a b : ℕ) :
      ((a + b : ℕ) : ℚ) / unitsPerOne =
        a / unitsPerOne + b / unitsPerOne := by
    rw [Nat.cast_add, add_div]
  have hScale {a b : ℕ} (hLe : a ≤ b) :
      (a : ℚ) / unitsPerOne ≤ b / unitsPerOne :=
    div_le_div_of_nonneg_right (Nat.cast_le.mpr hLe) hUnit.le
  unfold lowMid highMid
  rw [hSum, hSum]
  change y.toRat ≠ _ at hNe
  unfold units at hX
  cases hY : y.negative with
  | true =>
      have hNegative := toRat_of_negative hY
      have hBefore :=
        hScale (Nat.zero_le (unitsOf (x.magnitude - 1)))
      have hOwn := hScale (Nat.zero_le (unitsOf x.magnitude))
      rw [Nat.cast_zero, zero_div] at hBefore hOwn
      left
      constructor
      · exact lt_of_le_of_ne (by linarith) hNe
      · linarith
  | false =>
      have hOther := toRat_of_positive hY
      unfold units at hOther
      rcases Nat.lt_trichotomy y.magnitude x.magnitude with
        hLess | hSame | hGreater
      · have hBefore :=
          hScale
            (hMono (by omega : y.magnitude ≤ x.magnitude - 1))
        have hOwn := hScale (hMono hLess.le)
        left
        constructor
        · exact lt_of_le_of_ne (by linarith) hNe
        · linarith
      · rw [hX, hOther, hSame] at hNe
        exact absurd rfl hNe
      · have hBehind :=
          hScale
            (hMono (by omega : x.magnitude + 1 ≤ y.magnitude))
        have hOwn := hScale (hMono hGreater.le)
        right
        constructor
        · exact lt_of_le_of_ne (by linarith) hNe.symm
        · linarith

/- A finite magnitude that is nearest to a quotient of units
   is the rounding of the quotient. -/
theorem IsNearest.isRoundingOf
    {num den : ℕ}
    (hSign : x.negative = false)
    (hFinite : x.IsFinite)
    (hDen : 0 < den)
    (hNearest : IsNearest x.magnitude num den) :
    x.IsRoundingOf (num / (den * unitsPerOne)) := by
  have hUnit := cast_unitsPerOne_pos
  have hPos : (0 : ℚ) < den := Nat.cast_pos.mpr hDen
  have hTwice :
      2 * ((num : ℚ) / (den * unitsPerOne)) =
        ((2 * num : ℕ) : ℚ) / den / unitsPerOne := by
    push_cast
    field_simp
  have hLow :
      x.lowMid ≤ 2 * ((num : ℚ) / (den * unitsPerOne)) := by
    rw [hTwice]
    apply div_le_div_of_nonneg_right _ hUnit.le
    rw [le_div_iff₀ hPos]
    exact_mod_cast hNearest.low
  have hHigh :
      2 * ((num : ℚ) / (den * unitsPerOne)) ≤ x.highMid := by
    rw [hTwice]
    apply div_le_div_of_nonneg_right _ hUnit.le
    rw [div_le_iff₀ hPos]
    exact_mod_cast hNearest.high
  refine { isFinite := hFinite, closest := ?_, tie := ?_ }
  · intro y _
    by_cases hSame : y.toRat = x.toRat
    · rw [hSame]
    apply (abs_sub_le_abs_sub_iff _ _ _).mpr
    rcases apart_of_ne hSign hSame with
      ⟨hBefore, hMid⟩ | ⟨hBehind, hMid⟩
    · apply mul_nonneg_of_nonpos_of_nonpos
      · exact sub_nonpos.mpr hBefore.le
      · exact sub_nonpos.mpr (hMid.trans hLow)
    · apply mul_nonneg
      · exact sub_nonneg.mpr hBehind.le
      · linarith
  · intro y _ hTie
    by_cases hSame : y.toRat = x.toRat
    · exact Or.inl hSame
    right
    by_contra hOdd
    rcases hNearest.odd (by omega) with ⟨hNotLow, hNotHigh⟩
    have hStrictLow :
        x.lowMid < 2 * ((num : ℚ) / (den * unitsPerOne)) := by
      rw [hTwice]
      apply div_lt_div_of_pos_right _ hUnit
      rw [lt_div_iff₀ hPos]
      exact_mod_cast lt_of_le_of_ne hNearest.low hNotLow
    have hStrictHigh :
        2 * ((num : ℚ) / (den * unitsPerOne)) < x.highMid := by
      rw [hTwice]
      apply div_lt_div_of_pos_right _ hUnit
      rw [div_lt_iff₀ hPos]
      exact_mod_cast lt_of_le_of_ne hNearest.high hNotHigh
    have hMid :
        y.toRat + x.toRat ≠
          2 * ((num : ℚ) / (den * unitsPerOne)) := by
      rcases apart_of_ne hSign hSame with
        ⟨-, hMid⟩ | ⟨-, hMid⟩
      · exact (hMid.trans_lt hStrictLow).ne
      · rw [add_comm]
        exact (hStrictHigh.trans_le hMid).ne'
    exact abs_sub_ne_abs_sub hSame hMid hTie.symm

/- A number that a finite float stands for is not rounded
   away. -/
theorem IsRoundingOf.toRat_eq
    (hRounding : x.IsRoundingOf q)
    (hFinite : y.IsFinite)
    (hExact : y.toRat = q) :
    x.toRat = q := by
  have hClosest := hRounding.closest y hFinite
  rw [hExact, sub_self, abs_zero] at hClosest
  exact sub_eq_zero.mp (abs_nonpos_iff.mp hClosest)

------------------------------------------------------------
-- Natural Numbers
------------------------------------------------------------

variable {k m n : ℕ}

@[simp] theorem negative_ofNat (n : ℕ) :
    (ofNat n).negative = false := rfl

/- Natural numbers that fit into a word are rounded to the
   nearest magnitude. -/
theorem isNearest_ofNat (hLess : n < twoTo 64) :
    (ofNat n).IsFinite ∧
      IsNearest (ofNat n).magnitude (n * unitsPerOne) 1 := by
  rcases exists_isNearest (n * unitsPerOne) Nat.one_pos with
    ⟨magnitude, hNearest, hRounded⟩
  have hFinite : magnitude < infinityMagnitude := by
    by_contra hInfinite
    have hValue :=
      strictMono_unitsOf.monotone (Nat.not_lt.mp hInfinite)
    have hLow := hNearest.low
    have hTwice : 2 * n < twoTo 1024 := by
      have hSplit : twoTo 1024 = twoTo 65 * twoTo 959 :=
        twoTo_add 65 959
      have hDouble : twoTo 65 = twoTo 64 * 2 := rfl
      have hLarge :=
        Nat.le_mul_of_pos_right (twoTo 65) (twoTo_pos 959)
      omega
    have hScaled :=
      Nat.mul_lt_mul_of_pos_right hTwice unitsPerOne_pos
    rw [unitsOf_infinity] at hValue
    rw [Nat.mul_assoc] at hScaled
    omega
  have hMagnitude : (ofNat n).magnitude = magnitude := by
    change roundedMagnitude (n * unitsPerOne) 1 = magnitude
    rw [hRounded]
    exact Nat.min_eq_right hFinite.le
  unfold IsFinite
  rw [hMagnitude]
  exact ⟨hFinite, hNearest⟩

theorem isRoundingOf_ofNat (hLess : n < twoTo 64) :
    (ofNat n).IsRoundingOf n := by
  rcases isNearest_ofNat hLess with ⟨hFinite, hNearest⟩
  have hRounding :=
    hNearest.isRoundingOf rfl hFinite Nat.one_pos
  rw [Nat.cast_mul, Nat.cast_one, one_mul,
    mul_div_cancel_right₀ _ cast_unitsPerOne_pos.ne'] at hRounding
  exact hRounding

theorem units_ofNat_mono
    (hLe : k ≤ n)
    (hLess : n < twoTo 64) :
    (ofNat k).units ≤ (ofNat n).units :=
  strictMono_unitsOf.monotone
    ((isNearest_ofNat (hLe.trans_lt hLess)).2.mono Nat.one_pos
      (isNearest_ofNat hLess).2
      (Nat.mul_le_mul_right _ hLe))

/- The natural numbers up to `2 ^ 53` are not rounded. -/
theorem units_ofNat (hFits : n ≤ twoTo 53) :
    (ofNat n).units = n * unitsPerOne := by
  rcases exists_unitsOf_eq 1074 hFits with
    ⟨magnitude, hValue⟩
  have hExact : IsNearest magnitude (n * unitsPerOne) 1 :=
    .of_unitsOf Nat.one_pos (by rw [hValue, Nat.mul_one]; rfl)
  have hLess : n < twoTo 64 :=
    hFits.trans_lt (by decide)
  have hSame :=
    (isNearest_ofNat hLess).2.unique Nat.one_pos hExact
  rw [units, hSame, hValue]
  rfl

theorem toRat_ofNat (hFits : n ≤ twoTo 53) :
    (ofNat n).toRat = n := by
  rw [toRat_of_positive rfl, units_ofNat hFits, Nat.cast_mul,
    mul_div_cancel_right₀ _ cast_unitsPerOne_pos.ne']

theorem units_ofNat_pos
    (hPos : 0 < n)
    (hLess : n < twoTo 64) :
    0 < (ofNat n).units := by
  have hOne : (ofNat 1).units = 1 * unitsPerOne :=
    units_ofNat (by decide)
  have hMono : (ofNat 1).units ≤ (ofNat n).units :=
    units_ofNat_mono hPos hLess
  have hUnit := unitsPerOne_pos
  omega

------------------------------------------------------------
-- Quotients
------------------------------------------------------------

/- The quotient of two positive numbers is rounded once. -/
theorem div_eq_ofUnits
    (hX : x.negative = false)
    (hY : y.negative = false)
    (hFinite : x.IsFinite)
    (hFinite' : y.IsFinite)
    (hPos : 0 < y.units) :
    x / y = ofUnits false (x.units * unitsPerOne) y.units := by
  have hNonzero : ¬ y.IsZero := by
    intro hZero
    have hUnits : y.units = 0 := by
      rw [units, show y.magnitude = 0 from hZero]
      rfl
    omega
  change div x y = _
  unfold div
  dsimp only
  rw [if_neg hFinite.not_isNaN, if_neg hFinite'.not_isNaN,
    if_pos hFinite, if_neg hNonzero, if_pos hFinite', hX, hY]
  rfl

/- A quotient of at most one is rounded to the nearest
   float. -/
theorem isRoundingOf_div
    (hX : x.negative = false)
    (hY : y.negative = false)
    (hFinite : y.IsFinite)
    (hPos : 0 < y.units)
    (hLe : x.units ≤ y.units) :
    (x / y).negative = false ∧
      (x / y).IsRoundingOf (x.toRat / y.toRat) := by
  have hUnit := cast_unitsPerOne_pos
  have hFinite' : x.IsFinite :=
    (strictMono_unitsOf.le_iff_le.mp hLe).trans_lt hFinite
  rw [div_eq_ofUnits hX hY hFinite' hFinite hPos]
  refine ⟨rfl, ?_⟩
  rcases exists_isNearest (x.units * unitsPerOne) hPos with
    ⟨magnitude, hNearest, hRounded⟩
  have hOne : IsNearest (ofNat 1).magnitude
      (y.units * unitsPerOne) y.units := by
    apply IsNearest.of_unitsOf hPos
    change _ = (ofNat 1).units * y.units
    rw [units_ofNat (by decide : 1 ≤ twoTo 53)]
    ring
  have hSmall : magnitude < infinityMagnitude :=
    (hNearest.mono hPos hOne
      (Nat.mul_le_mul_right _ hLe)).trans_lt (by decide +kernel)
  have hMagnitude :
      (ofUnits false (x.units * unitsPerOne)
          y.units).magnitude =
        magnitude := by
    change roundedMagnitude _ _ = magnitude
    rw [hRounded]
    exact Nat.min_eq_right hSmall.le
  rw [← hMagnitude] at hNearest hSmall
  have hRounding := hNearest.isRoundingOf rfl hSmall hPos
  have hQuotient :
      ((x.units * unitsPerOne : ℕ) : ℚ) /
          (y.units * unitsPerOne) =
        x.toRat / y.toRat := by
    rw [toRat_of_positive hX, toRat_of_positive hY,
      div_div_div_cancel_right₀ hUnit.ne', Nat.cast_mul,
      mul_div_mul_right _ _ hUnit.ne']
  rwa [hQuotient] at hRounding

------------------------------------------------------------
-- Numbers up to One
------------------------------------------------------------

/- Whole numbers of steps of `2 ^ -53` up to one are floats. -/
theorem exists_toRat_eq_div (hFits : n ≤ twoTo 53) :
    ∃ x : Binary64,
      x.IsFinite ∧ x.toRat = n / (2 ^ 53 : ℕ) := by
  rcases exists_unitsOf_eq 1021 hFits with
    ⟨magnitude, hValue⟩
  have hSplit : unitsPerOne = twoTo 53 * twoTo 1021 :=
    twoTo_add 53 1021
  have hUnits : unitsOf magnitude ≤ (ofNat 1).units := by
    rw [hValue, units_ofNat (by decide : 1 ≤ twoTo 53),
      Nat.one_mul, hSplit]
    exact Nat.mul_le_mul_right _ hFits
  have hOne :=
    (isNearest_ofNat (by decide : 1 < twoTo 64)).1
  have hSmall : magnitude < infinityMagnitude :=
    (strictMono_unitsOf.le_iff_le.mp hUnits).trans_lt hOne
  let x : Binary64 :=
    ⟨false, magnitude, hSmall.trans (by decide)⟩
  refine ⟨x, hSmall, ?_⟩
  have hPos : (0 : ℚ) < (twoTo 1021 : ℕ) :=
    Nat.cast_pos.mpr (twoTo_pos 1021)
  have hUnitsX : x.units = n * twoTo 1021 := hValue
  rw [toRat_of_positive rfl, hUnitsX, hSplit, Nat.cast_mul,
    Nat.cast_mul, mul_div_mul_right _ _ hPos.ne']
  rfl

/- So numbers up to one are rounded by at most `2 ^ -54`. -/
theorem IsRoundingOf.abs_sub_le
    (hRounding : x.IsRoundingOf q)
    (hNonneg : 0 ≤ q)
    (hLe : q ≤ 1) :
    |x.toRat - q| ≤ 1 / (2 * (2 ^ 53 : ℕ)) := by
  have hPos : (0 : ℚ) < (2 ^ 53 : ℕ) := by positivity
  let n := ⌊q * (2 ^ 53 : ℕ) + 1 / 2⌋₊
  have hScaled : 0 ≤ q * (2 ^ 53 : ℕ) + 1 / 2 := by
    positivity
  have hFloor : (n : ℚ) ≤ q * (2 ^ 53 : ℕ) + 1 / 2 :=
    Nat.floor_le hScaled
  have hAbove : q * (2 ^ 53 : ℕ) + 1 / 2 < n + 1 :=
    Nat.lt_floor_add_one _
  have hFits : n ≤ twoTo 53 := by
    have hTop : (n : ℚ) < ((2 ^ 53 + 1 : ℕ) : ℚ) := by
      push_cast at hFloor ⊢
      linarith
    exact Nat.le_of_lt_succ (Nat.cast_lt.mp hTop)
  rcases exists_toRat_eq_div hFits with
    ⟨y, hFinite, hValue⟩
  apply (hRounding.closest y hFinite).trans
  have hHalf :
      y.toRat - q =
        (n - q * (2 ^ 53 : ℕ)) / (2 ^ 53 : ℕ) := by
    rw [hValue, sub_div, mul_div_cancel_right₀ _ hPos.ne']
  have hNear : |(n : ℚ) - q * (2 ^ 53 : ℕ)| ≤ 1 / 2 := by
    rw [abs_le]
    constructor <;> linarith
  rw [hHalf, abs_div, abs_of_pos hPos, ← div_div]
  exact div_le_div_of_nonneg_right hNear hPos.le

/- Different numbers of parts of one whole are rounded to
   different floats if there are at most `2 ^ 53` parts. -/
theorem IsRoundingOf.toRat_lt
    (hX : x.IsRoundingOf (k / n))
    (hY : y.IsRoundingOf (m / n))
    (hLess : k < m)
    (hLe : m ≤ n)
    (hFits : n ≤ twoTo 53) :
    x.toRat < y.toRat := by
  have hPos : (0 : ℚ) < n := by
    exact_mod_cast (by omega : 0 < n)
  have hStep : (k : ℚ) / n + 1 / n ≤ m / n := by
    rw [← add_div]
    apply div_le_div_of_nonneg_right _ hPos.le
    exact_mod_cast hLess
  have hTop : (m : ℚ) / n ≤ 1 := by
    rw [div_le_one hPos]
    exact_mod_cast hLe
  have hBottom : 0 ≤ (k : ℚ) / n := by positivity
  have hGap : (0 : ℚ) < 1 / n := by positivity
  rcases Nat.lt_or_eq_of_le hFits with hFew | hMany
  · -- the quotients are further apart than they are moved
    have hNearX :=
      hX.abs_sub_le hBottom (by linarith)
    have hNearY :=
      hY.abs_sub_le (by linarith) hTop
    rw [abs_le] at hNearX hNearY
    have hWide :
        1 / (2 * (2 ^ 53 : ℕ) : ℚ) + 1 / (2 * (2 ^ 53 : ℕ)) <
          1 / n := by
      have hHalves :
          1 / (2 * (2 ^ 53 : ℕ) : ℚ) +
              1 / (2 * (2 ^ 53 : ℕ)) =
            1 / (2 ^ 53 : ℕ) := by
        norm_num
      rw [hHalves]
      apply one_div_lt_one_div_of_lt hPos
      exact_mod_cast hFew
    linarith
  · -- the quotients are floats themselves
    have hExact {part : ℕ} (hPart : part ≤ n) :
        ∃ z : Binary64, z.IsFinite ∧ z.toRat = part / n := by
      rw [hMany] at hPart ⊢
      exact exists_toRat_eq_div hPart
    rcases hExact (hLess.le.trans hLe) with
      ⟨z, hFinite, hValue⟩
    rcases hExact hLe with ⟨z', hFinite', hValue'⟩
    rw [hX.toRat_eq hFinite hValue, hY.toRat_eq hFinite' hValue']
    linarith

end Binary64

end LatencySweep
