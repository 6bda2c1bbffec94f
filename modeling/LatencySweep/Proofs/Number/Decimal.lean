import LatencySweep.Number.Decimal
import LatencySweep.Proofs.Number.Shortest

/-
  A decimal gives the float that it is nearest to.

  The value of a decimal counts, not where its point is. A
  decimal that is nearest to a positive finite float is
  neither so small nor so large that its digits would be
  ignored.

  Main declarations:
    * `Decimal.SameValue`
    * `Binary64.IsNearestDecimal.places_ge`
    * `Binary64.IsNearestDecimal.places_le`
    * `Binary64.magnitude_ofDecimal`
    * `Binary64.ofDecimal_eq`
-/

namespace LatencySweep

------------------------------------------------------------
-- Values of Decimals
------------------------------------------------------------

open Binary64 (tenPowNum tenPowDen IsNearestDecimal) in
/- Two decimals stand for the same number. -/
def Decimal.SameValue (first second : Decimal) : Prop :=
  first.coefficient * tenPowNum first.exponent *
      tenPowDen second.exponent =
    second.coefficient * tenPowNum second.exponent *
      tenPowDen first.exponent

namespace Decimal

theorem SameValue.symm
    {first second : Decimal}
    (hSame : first.SameValue second) :
    second.SameValue first :=
  Eq.symm hSame

theorem SameValue.trans
    {first second third : Decimal}
    (hFirst : first.SameValue second)
    (hSecond : second.SameValue third) :
    first.SameValue third := by
  unfold SameValue at hFirst hSecond ⊢
  apply
    Nat.eq_of_mul_eq_mul_right
      (Binary64.tenPowDen_pos second.exponent)
  rw [Nat.mul_right_comm, hFirst, Nat.mul_right_comm,
    hSecond, Nat.mul_right_comm]

/- Zeros at the end of a coefficient go to the exponent. -/
theorem sameValue_shift
    (coefficient zeros : Nat)
    (exponent : Int) :
    SameValue ⟨coefficient, exponent + zeros⟩
      ⟨coefficient * tenTo zeros, exponent⟩ := by
  have hPowers :
      tenTo (exponent + zeros).toNat *
          tenTo (-exponent).toNat =
        tenTo zeros * tenTo exponent.toNat *
          tenTo (-(exponent + zeros)).toNat := by
    simp only [← tenTo_add]
    congr 1
    omega
  unfold SameValue Binary64.tenPowNum Binary64.tenPowDen
  dsimp only
  rw [Nat.mul_assoc, hPowers]
  ring

end Decimal

namespace Binary64

/- What a decimal is nearest to depends on its value only. -/
theorem IsNearestDecimal.congr
    {magnitude : Nat}
    {first second : Decimal}
    (hSame : first.SameValue second)
    (hNearest : IsNearestDecimal magnitude second) :
    IsNearestDecimal magnitude first := by
  apply
    IsNearest.scale (tenPowDen_pos second.exponent)
      (tenPowDen_pos first.exponent) _ hNearest
  calc first.coefficient *
          (unitsPerOne * tenPowNum first.exponent) *
        tenPowDen second.exponent
      = unitsPerOne * (first.coefficient *
          tenPowNum first.exponent *
            tenPowDen second.exponent) := by ring
    _ = unitsPerOne * (second.coefficient *
          tenPowNum second.exponent *
            tenPowDen first.exponent) := by rw [hSame]
    _ = second.coefficient *
          (unitsPerOne * tenPowNum second.exponent) *
        tenPowDen first.exponent := by ring

------------------------------------------------------------
-- Floats of Decimals
------------------------------------------------------------

variable {x : Binary64}

theorem eq_of_magnitude
    {x y : Binary64}
    (hSign : x.negative = y.negative)
    (hMagnitude : x.magnitude = y.magnitude) :
    x = y := by
  rcases x with ⟨negative, magnitude, hLess⟩
  rcases y with ⟨other, same, hOther⟩
  cases hSign
  cases hMagnitude
  rfl

variable {magnitude : Nat} {d : Decimal}

/- The units of infinity, if it were a number. -/
theorem unitsOf_infinity :
    unitsOf infinityMagnitude = twoTo 1024 * unitsPerOne := by
  have hParts := unitsOf_parts (2046 + 1) (twoTo_pos 52)
  rw [Nat.add_zero, if_neg (Nat.succ_ne_zero 2046),
    Nat.add_sub_cancel, Nat.add_zero (twoTo 52)] at hParts
  unfold infinityMagnitude unitsPerOne
  rw [hParts, ← twoTo_add, ← twoTo_add]

theorem tenTo_le_tenTo
    {m n : Nat}
    (hLe : m ≤ n) :
    tenTo m ≤ tenTo n :=
  Nat.pow_le_pow_right (by decide) hLe

/- A decimal that is nearest to a positive float is at least
   half a unit. -/
theorem IsNearestDecimal.half_unit_le
    (hPos : 0 < magnitude)
    (hNearest : IsNearestDecimal magnitude d) :
    tenPowDen d.exponent ≤
      2 * (d.coefficient *
        (unitsPerOne * tenPowNum d.exponent)) := by
  have hUnit : 0 < unitsOf magnitude := strictMono_unitsOf hPos
  apply le_trans _ hNearest.low
  exact Nat.le_mul_of_pos_left _ (Nat.add_pos_right _ hUnit)

/- A decimal that is nearest to a finite float is at most
   the infinite one. -/
theorem IsNearestDecimal.le_infinity
    (hFinite : magnitude < infinityMagnitude)
    (hNearest : IsNearestDecimal magnitude d) :
    d.coefficient * (unitsPerOne * tenPowNum d.exponent) ≤
      twoTo 1024 * unitsPerOne * tenPowDen d.exponent := by
  have hMono := strictMono_unitsOf.monotone
  have hHigh := hNearest.high
  have hSum :
      (unitsOf magnitude + unitsOf (magnitude + 1)) *
          tenPowDen d.exponent ≤
        2 * (twoTo 1024 * unitsPerOne *
          tenPowDen d.exponent) := by
    rw [← unitsOf_infinity, ← Nat.mul_assoc, Nat.two_mul]
    apply Nat.mul_le_mul_right
    exact Nat.add_le_add (hMono hFinite.le) (hMono hFinite)
  omega

/- Its first digit is not too far behind the point. -/
theorem IsNearestDecimal.places_ge
    (hPos : 0 < magnitude)
    (hNearest : IsNearestDecimal magnitude d) :
    -330 ≤ d.pointPosition := by
  let digits := (decimalDigits d.coefficient).length
  have hPoint :
      d.pointPosition = (digits : Int) + d.exponent := rfl
  by_contra hLess
  let empty := (-d.pointPosition).toNat
  have hSum :
      ((0 : Nat) : Int) =
        ((digits + empty : Nat) : Int) + d.exponent := by
    omega
  have hScale := tenTo_mul_tenPowDen hSum
  have hLow := hNearest.half_unit_le hPos
  have hScaled : 0 < tenTo digits * tenPowNum d.exponent :=
    Nat.mul_pos (tenTo_pos digits) (tenPowNum_pos _)
  have hLoop :
      tenTo 330 * (tenTo digits * tenPowNum d.exponent) ≤
        twoTo 1075 * (tenTo digits * tenPowNum d.exponent) :=
    calc tenTo 330 * (tenTo digits * tenPowNum d.exponent)
        ≤ tenTo empty *
            (tenTo digits * tenPowNum d.exponent) :=
          Nat.mul_le_mul_right _ (tenTo_le_tenTo (by omega))
      _ = tenTo (digits + empty) * tenPowNum d.exponent := by
          rw [tenTo_add]
          ring
      _ = tenPowDen d.exponent := by
          rw [← hScale]
          exact Nat.one_mul _
      _ ≤ 2 * (d.coefficient *
            (unitsPerOne * tenPowNum d.exponent)) := hLow
      _ ≤ 2 * (tenTo digits *
            (unitsPerOne * tenPowNum d.exponent)) := by
          apply Nat.mul_le_mul_left
          apply Nat.mul_le_mul_right
          exact (lt_tenTo_length d.coefficient).le
      _ = twoTo 1075 *
            (tenTo digits * tenPowNum d.exponent) := by
          rw [twoTo_succ 1074]
          unfold unitsPerOne
          ring
  have hPowers : twoTo 1075 < tenTo 330 := by decide +kernel
  exact
    Nat.not_le.mpr
      (Nat.mul_lt_mul_of_pos_right hPowers hScaled) hLoop

/- Its first digit is not too far before the point. -/
theorem IsNearestDecimal.places_le
    (hCoefficient : 0 < d.coefficient)
    (hFinite : magnitude < infinityMagnitude)
    (hNearest : IsNearestDecimal magnitude d) :
    d.pointPosition ≤ 310 := by
  let digits := (decimalDigits d.coefficient).length
  have hDigits : 0 < digits := Nat.length_toDigits_pos
  have hPoint :
      d.pointPosition = (digits : Int) + d.exponent := rfl
  by_contra hMore
  let places := (d.pointPosition - 1).toNat
  have hSum :
      (places : Int) =
        ((digits - 1 : Nat) : Int) + d.exponent := by
    omega
  have hScale := tenTo_mul_tenPowDen hSum
  have hHigh := hNearest.le_infinity hFinite
  have hScaled : 0 < unitsPerOne * tenPowDen d.exponent :=
    Nat.mul_pos (twoTo_pos 1074) (tenPowDen_pos _)
  have hLoop :
      tenTo 310 * (unitsPerOne * tenPowDen d.exponent) ≤
        twoTo 1024 * (unitsPerOne * tenPowDen d.exponent) :=
    calc tenTo 310 * (unitsPerOne * tenPowDen d.exponent)
        ≤ tenTo places *
            (unitsPerOne * tenPowDen d.exponent) :=
          Nat.mul_le_mul_right _ (tenTo_le_tenTo (by omega))
      _ = unitsPerOne *
            (tenTo places * tenPowDen d.exponent) :=
          Nat.mul_left_comm _ _ _
      _ = tenTo (digits - 1) *
            (unitsPerOne * tenPowNum d.exponent) := by
          rw [hScale]
          exact Nat.mul_left_comm _ _ _
      _ ≤ d.coefficient *
            (unitsPerOne * tenPowNum d.exponent) := by
          apply Nat.mul_le_mul_right
          apply tenTo_le_of_lt_length hCoefficient
          exact Nat.sub_lt hDigits Nat.one_pos
      _ ≤ twoTo 1024 * unitsPerOne *
            tenPowDen d.exponent := hHigh
      _ = twoTo 1024 *
            (unitsPerOne * tenPowDen d.exponent) :=
          Nat.mul_assoc _ _ _
  have hPowers : twoTo 1024 < tenTo 310 := by decide +kernel
  exact
    Nat.not_le.mpr
      (Nat.mul_lt_mul_of_pos_right hPowers hScaled) hLoop

/- Some magnitude is nearest to a decimal. -/
theorem exists_isNearestDecimal (d : Decimal) :
    ∃ magnitude, IsNearestDecimal magnitude d := by
  rcases exists_isNearest _ (tenPowDen_pos d.exponent) with
    ⟨magnitude, hNearest, -⟩
  exact ⟨magnitude, hNearest⟩

@[simp] theorem negative_ofDecimal
    (negative : Bool)
    (digits : Nat)
    (exponent : Int) :
    (ofDecimal negative digits exponent).negative =
      negative := by
  unfold ofDecimal
  dsimp only
  split
  next => rfl
  next =>
    split
    next => rfl
    next => split <;> rfl

/- A decimal gives the magnitude that it is nearest to, as
   far as there are finite ones. -/
theorem magnitude_ofDecimal
    (negative : Bool)
    (hNearest : IsNearestDecimal magnitude d) :
    (ofDecimal negative d.coefficient d.exponent).magnitude =
      min infinityMagnitude magnitude := by
  have hPlaces :
      d.pointPosition =
        (decimalDigits d.coefficient).length + d.exponent :=
    rfl
  unfold ofDecimal
  dsimp only
  rw [← hPlaces]
  split
  next hSmall =>
    have hZero : magnitude = 0 := by
      by_contra hNonzero
      have hPos : 0 < magnitude := Nat.pos_of_ne_zero hNonzero
      have hHalf := hNearest.half_unit_le hPos
      rcases hSmall with hNone | hBehind
      · rw [hNone, Nat.zero_mul] at hHalf
        exact Nat.not_le.mpr (tenPowDen_pos d.exponent) hHalf
      · exact Int.not_le.mpr hBehind (hNearest.places_ge hPos)
    rw [hZero]
    rfl
  next hSome =>
    rw [not_or] at hSome
    have hPos : 0 < d.coefficient :=
      Nat.pos_of_ne_zero hSome.1
    split
    next hLarge =>
      have hInfinite : infinityMagnitude ≤ magnitude := by
        by_contra hFinite
        rw [Nat.not_le] at hFinite
        exact
          Int.not_le.mpr hLarge
            (hNearest.places_le hPos hFinite)
      exact (Nat.min_eq_left hInfinite).symm
    next =>
      unfold IsNearestDecimal at hNearest
      split
      next hWhole =>
        have hOne : tenPowDen d.exponent = 1 := by
          have hExponent : (-d.exponent).toNat = 0 := by omega
          rw [tenPowDen, hExponent]
          rfl
        rw [hOne] at hNearest
        apply roundedMagnitude_eq Nat.one_pos
        convert hNearest using 1
        rw [Nat.mul_comm unitsPerOne, ← Nat.mul_assoc]
        rfl
      next hPart =>
        have hOne : tenPowNum d.exponent = 1 := by
          have hExponent : d.exponent.toNat = 0 := by omega
          rw [tenPowNum, hExponent]
          rfl
        rw [hOne, Nat.mul_one] at hNearest
        exact
          roundedMagnitude_eq (tenPowDen_pos d.exponent)
            hNearest

/- A decimal gives the finite float that it is nearest
   to. -/
theorem ofDecimal_eq
    (hFinite : x.IsFinite)
    (hNearest : IsNearestDecimal x.magnitude d) :
    ofDecimal x.negative d.coefficient d.exponent = x := by
  have hMagnitude := magnitude_ofDecimal x.negative hNearest
  rw [Nat.min_eq_right (Nat.le_of_lt hFinite)] at hMagnitude
  exact
    eq_of_magnitude (negative_ofDecimal _ _ _) hMagnitude

end Binary64

end LatencySweep
