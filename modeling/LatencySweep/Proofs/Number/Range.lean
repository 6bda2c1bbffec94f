import LatencySweep.Proofs.Number.Value

/-
  Which numbers are rounded to finite floats.

  What lies halfway between the greatest float and the
  magnitude behind it, or further on, becomes infinite. A
  product of two finite floats is therefore finite just
  when the exact product stays below this limit, and it
  never becomes a NaN.

  Main declarations:
    * `Binary64.limit`
    * `Binary64.isFinite_ofUnits_iff`
    * `Binary64.isFinite_mul_iff`
    * `Binary64.mul_eq_infinity`
-/

namespace LatencySweep

namespace Binary64

variable {x y : Binary64}

------------------------------------------------------------
-- The Limit
------------------------------------------------------------

/- The least number that is rounded to infinity. -/
def limit : ℕ :=
  twoTo 1024 - twoTo 970

/- It is the midpoint below the magnitude of infinity. -/
theorem midpoint_infinity :
    unitsOf (infinityMagnitude - 1) +
        unitsOf infinityMagnitude =
      2 * (limit * unitsPerOne) := by
  decide +kernel

/- A tie at the limit goes to infinity, which is even. -/
theorem isNearest_infinity (den : ℕ) :
    IsNearest infinityMagnitude (limit * unitsPerOne * den)
      den := by
  have hMid :
      2 * (limit * unitsPerOne * den) =
        (unitsOf (infinityMagnitude - 1) +
            unitsOf infinityMagnitude) *
          den := by
    rw [midpoint_infinity, Nat.mul_assoc 2]
  have hMono := strictMono_unitsOf.monotone
  refine { low := hMid.ge, high := ?_, odd := ?_ }
  · rw [hMid]
    apply Nat.mul_le_mul_right
    exact
      Nat.add_le_add (hMono (Nat.sub_le _ 1))
        (hMono (Nat.le_succ _))
  · intro hOdd
    exact absurd hOdd (by decide)

/- A quotient below the limit is rounded to a finite float,
   and no other is. -/
theorem isFinite_ofUnits_iff
    {negative : Bool}
    {num den : ℕ}
    (hDen : 0 < den) :
    (ofUnits negative num den).IsFinite ↔
      num < limit * unitsPerOne * den := by
  rcases exists_isNearest num hDen with
    ⟨magnitude, hNearest, hRounded⟩
  have hInfinity := isNearest_infinity den
  have hFinite :
      (ofUnits negative num den).IsFinite ↔
        magnitude < infinityMagnitude := by
    change roundedMagnitude num den < infinityMagnitude ↔ _
    rw [hRounded]
    omega
  rw [hFinite, ← not_le, ← not_le]
  refine not_congr ⟨?_, hInfinity.mono hDen hNearest⟩
  intro hLe
  have hMono := strictMono_unitsOf.monotone
  have hMid :
      (unitsOf (infinityMagnitude - 1) +
            unitsOf infinityMagnitude) *
          den ≤
        (unitsOf (magnitude - 1) + unitsOf magnitude) *
          den := by
    apply Nat.mul_le_mul_right
    exact
      Nat.add_le_add (hMono (Nat.sub_le_sub_right hLe 1))
        (hMono hLe)
  have hLow := hNearest.low
  rw [midpoint_infinity, Nat.mul_assoc 2] at hMid
  omega

/- What is rounded is finite or infinite. -/
theorem ofUnits_eq_infinity
    {negative : Bool}
    {num den : ℕ}
    (hInfinite : ¬ (ofUnits negative num den).IsFinite) :
    ofUnits negative num den = infinity negative :=
  eq_of_magnitude rfl
    (Nat.le_antisymm (Nat.min_le_left _ _)
      (Nat.not_lt.mp hInfinite))

------------------------------------------------------------
-- Products
------------------------------------------------------------

theorem abs_toRat (x : Binary64) :
    |x.toRat| = x.units / unitsPerOne := by
  have hUnits : (0 : ℚ) ≤ x.units / unitsPerOne :=
    div_nonneg (Nat.cast_nonneg _) cast_unitsPerOne_pos.le
  unfold toRat
  cases x.negative with
  | true =>
      rw [if_pos rfl, neg_one_mul, abs_neg,
        abs_of_nonneg hUnits]
  | false =>
      rw [if_neg Bool.false_ne_true, one_mul,
        abs_of_nonneg hUnits]

theorem mul_eq_ofUnits
    (hX : x.IsFinite)
    (hY : y.IsFinite) :
    x * y =
      ofUnits (x.negative != y.negative)
        (x.units * y.units) unitsPerOne := by
  change mul x y = _
  unfold mul
  dsimp only
  rw [if_neg hX.not_isNaN, if_neg hY.not_isNaN,
    if_pos ⟨hX, hY⟩]

/- A product is finite if the exact one is below the
   limit. -/
theorem isFinite_mul_iff
    (hX : x.IsFinite)
    (hY : y.IsFinite) :
    (x * y).IsFinite ↔ |x.toRat| * |y.toRat| < limit := by
  have hUnit := cast_unitsPerOne_pos
  rw [mul_eq_ofUnits hX hY,
    isFinite_ofUnits_iff unitsPerOne_pos, abs_toRat,
    abs_toRat, div_mul_div_comm,
    div_lt_iff₀ (mul_pos hUnit hUnit), ← mul_assoc]
  exact_mod_cast Iff.rfl

/- Any other product is infinite. -/
theorem mul_eq_infinity
    (hX : x.IsFinite)
    (hY : y.IsFinite)
    (hInfinite : ¬ (x * y).IsFinite) :
    x * y = infinity (x.negative != y.negative) := by
  rw [mul_eq_ofUnits hX hY] at hInfinite ⊢
  exact ofUnits_eq_infinity hInfinite

end Binary64

end LatencySweep
