import LatencySweep.Number.Binary64
import Mathlib.Order.Monotone.Basic
import Mathlib.Tactic.Ring

/-
  Rounding finds the nearest float.

  A magnitude is a count of units of one size, and the next
  magnitude is one such unit further on. A quotient is
  nearest to a magnitude if it lies between the midpoints to
  both neighbours. It is nearest to one magnitude only, and
  that is the one it is rounded to.

  Main declarations:
    * `Binary64.IsCount`
    * `Binary64.strictMono_unitsOf`
    * `Binary64.IsNearest`
    * `Binary64.IsNearest.unique`
    * `Binary64.exists_isNearest`
    * `Binary64.roundedMagnitude_eq`
-/

namespace LatencySweep

------------------------------------------------------------
-- Powers of Two
------------------------------------------------------------

theorem twoTo_add (m n : Nat) :
    twoTo (m + n) = twoTo m * twoTo n :=
  Nat.pow_add 2 m n

theorem twoTo_53 : twoTo 53 = 2 * twoTo 52 := rfl

namespace Binary64

------------------------------------------------------------
-- Counts of Units
------------------------------------------------------------

/- The magnitude is that of a count of units which are
   `2 ^ shift` smallest ones each. -/
structure IsCount (magnitude shift count : Nat) : Prop where
  magnitude_eq : magnitude = shift * twoTo 52 + count
  fits : count ≤ twoTo 53
  normal : shift = 0 ∨ twoTo 52 ≤ count

/- The value of a magnitude in terms of its parts. -/
theorem unitsOf_parts
    (exponent : Nat)
    {fraction : Nat}
    (hFraction : fraction < twoTo 52) :
    unitsOf (exponent * twoTo 52 + fraction) =
      if exponent = 0 then fraction
      else
        (twoTo 52 + fraction) * twoTo (exponent - 1) := by
  have hQuotient :
      (exponent * twoTo 52 + fraction) / twoTo 52 =
        exponent := by
    rw [Nat.mul_comm, Nat.mul_add_div (twoTo_pos 52),
      Nat.div_eq_of_lt hFraction, Nat.add_zero]
  have hRemainder :
      (exponent * twoTo 52 + fraction) % twoTo 52 =
        fraction := by
    rw [Nat.mul_comm, Nat.mul_add_mod,
      Nat.mod_eq_of_lt hFraction]
  unfold unitsOf
  rw [hQuotient, hRemainder]

/- The value of a count. -/
theorem IsCount.unitsOf_eq
    {magnitude shift count : Nat}
    (hCount : IsCount magnitude shift count) :
    unitsOf magnitude = count * twoTo shift := by
  rcases hCount with ⟨rfl, hFits, hNormal⟩
  have hDouble := twoTo_53
  by_cases hSmall : count < twoTo 52
  · have hShift : shift = 0 := by omega
    rw [unitsOf_parts shift hSmall, if_pos hShift, hShift]
    exact (Nat.mul_one count).symm
  · rcases Nat.exists_eq_add_of_le
        (Nat.not_lt.mp hSmall) with ⟨fraction, rfl⟩
    by_cases hFraction : fraction < twoTo 52
    · have hParts :
          shift * twoTo 52 + (twoTo 52 + fraction) =
            (shift + 1) * twoTo 52 + fraction := by
        ring
      rw [hParts, unitsOf_parts _ hFraction]
      rfl
    · -- the count has been carried into the next block
      have hCarry : fraction = twoTo 52 := by omega
      have hParts :
          shift * twoTo 52 + (twoTo 52 + twoTo 52) =
            (shift + 2) * twoTo 52 + 0 := by
        ring
      rw [hCarry, hParts, unitsOf_parts _ (twoTo_pos 52)]
      change twoTo 52 * twoTo (shift + 1) = _
      rw [twoTo_succ shift]
      ring

/- Every magnitude is a count, and it is not carried. -/
theorem exists_isCount (magnitude : Nat) :
    ∃ shift count,
      IsCount magnitude shift count ∧ count < twoTo 53 := by
  have hDouble := twoTo_53
  have hPos := twoTo_pos 52
  have hSplit := Nat.div_add_mod' magnitude (twoTo 52)
  have hFraction := Nat.mod_lt magnitude hPos
  cases hExponent : magnitude / twoTo 52 with
  | zero =>
      rw [hExponent, Nat.zero_mul, Nat.zero_add] at hSplit
      refine ⟨0, magnitude, ?_, by omega⟩
      exact
        { magnitude_eq := by omega
          fits := by omega
          normal := Or.inl rfl }
  | succ shift =>
      rw [hExponent, Nat.succ_mul] at hSplit
      refine
        ⟨shift, twoTo 52 + magnitude % twoTo 52, ?_,
          by omega⟩
      exact
        { magnitude_eq := by omega
          fits := by omega
          normal := Or.inr (Nat.le_add_right _ _) }

/- The next magnitude is at least one unit further on. -/
theorem IsCount.unitsOf_succ
    {magnitude shift count : Nat}
    (hCount : IsCount magnitude shift count)
    (hFits : count < twoTo 53) :
    unitsOf (magnitude + 1) =
      (count + 1) * twoTo shift := by
  have hNext : IsCount (magnitude + 1) shift (count + 1) :=
    { magnitude_eq := by
        rw [hCount.magnitude_eq, Nat.add_assoc]
      fits := hFits
      normal :=
        hCount.normal.imp_right fun hLe =>
          Nat.le_succ_of_le hLe }
  exact hNext.unitsOf_eq

/- Magnitudes and counts are odd together, as blocks have
   an even length. -/
theorem IsCount.parity
    {magnitude shift count : Nat}
    (hCount : IsCount magnitude shift count) :
    magnitude % 2 = count % 2 := by
  rw [hCount.magnitude_eq, twoTo_succ 51, ← Nat.mul_assoc,
    Nat.mul_add_mod_self_right]

/- Inside a block, the magnitude before is one unit less. -/
theorem IsCount.pred_step
    {magnitude shift count : Nat}
    (hCount : IsCount magnitude shift count)
    (hPos : 0 < count)
    (hInside : shift = 0 ∨ twoTo 52 < count)
    (den : Nat) :
    unitsOf (magnitude - 1) * den + twoTo shift * den =
      count * (twoTo shift * den) := by
  have hFits := hCount.fits
  have hMagnitude := hCount.magnitude_eq
  have hBefore :
      IsCount (magnitude - 1) shift (count - 1) :=
    { magnitude_eq := by omega
      fits := by omega
      normal := by omega }
  rw [hBefore.unitsOf_eq, ← Nat.add_mul, ← Nat.succ_mul,
    Nat.succ_eq_add_one, Nat.sub_add_cancel hPos,
    Nat.mul_assoc]

/- A count that fits is the value of a magnitude, whatever
   the size of its units. -/
theorem exists_unitsOf_eq
    {count : Nat}
    (shift : Nat)
    (hFits : count ≤ twoTo 53) :
    ∃ magnitude,
      unitsOf magnitude = count * twoTo shift := by
  -- small counts are doubled, with units half as large
  induction shift generalizing count with
  | zero =>
      have hCount : IsCount count 0 count :=
        { magnitude_eq := by rw [Nat.zero_mul, Nat.zero_add]
          fits := hFits
          normal := Or.inl rfl }
      exact ⟨count, hCount.unitsOf_eq⟩
  | succ shift ih =>
      by_cases hNormal : twoTo 52 ≤ count
      · have hCount :
            IsCount ((shift + 1) * twoTo 52 + count)
              (shift + 1) count :=
          { magnitude_eq := rfl
            fits := hFits
            normal := Or.inr hNormal }
        exact ⟨_, hCount.unitsOf_eq⟩
      · have hDouble : count * 2 ≤ twoTo 53 := by
          rw [twoTo_53]
          omega
        rcases ih hDouble with ⟨magnitude, hValue⟩
        refine ⟨magnitude, ?_⟩
        rw [hValue, twoTo_succ shift]
        ring

theorem strictMono_unitsOf : StrictMono unitsOf := by
  apply strictMono_nat_of_lt_succ
  intro magnitude
  rcases exists_isCount magnitude with
    ⟨shift, count, hCount, hFits⟩
  rw [hCount.unitsOf_eq, hCount.unitsOf_succ hFits]
  exact
    Nat.mul_lt_mul_of_pos_right (Nat.lt_succ_self count)
      (twoTo_pos shift)

/- The next magnitude is at least one unit more, also where
   the units change. -/
theorem IsCount.succ_step
    {magnitude shift count : Nat}
    (hCount : IsCount magnitude shift count)
    (den : Nat) :
    count * (twoTo shift * den) + twoTo shift * den ≤
      unitsOf (magnitude + 1) * den := by
  rw [← Nat.succ_mul, ← Nat.mul_assoc]
  apply Nat.mul_le_mul_right
  by_cases hFits : count < twoTo 53
  · exact (hCount.unitsOf_succ hFits).ge
  · have hCarried : count = 2 * twoTo 52 :=
      Nat.le_antisymm hCount.fits (Nat.not_lt.mp hFits)
    have hMagnitude := hCount.magnitude_eq
    have hNext :
        IsCount (magnitude + 1) (shift + 1) (twoTo 52 + 1) :=
      { magnitude_eq := by
          rw [hMagnitude, hCarried]
          ring
        fits := by decide
        normal := Or.inr (Nat.le_succ _) }
    rw [hNext.unitsOf_eq, hCarried, twoTo_succ shift]
    have hPos := twoTo_pos shift
    calc (2 * twoTo 52 + 1) * twoTo shift
        ≤ (2 * twoTo 52 + 2) * twoTo shift :=
          Nat.mul_le_mul_right _ (Nat.le_succ _)
      _ = (twoTo 52 + 1) * (twoTo shift * 2) := by ring

------------------------------------------------------------
-- Nearest Magnitudes
------------------------------------------------------------

/-
  The quotient lies between the midpoints to the neighbours
  of the magnitude, and on one of them only if the magnitude
  is even.
-/
structure IsNearest (magnitude num den : Nat) : Prop where
  low :
    (unitsOf (magnitude - 1) + unitsOf magnitude) * den ≤
      2 * num
  high :
    2 * num ≤
      (unitsOf magnitude + unitsOf (magnitude + 1)) * den
  odd :
    magnitude % 2 = 1 →
      (unitsOf (magnitude - 1) + unitsOf magnitude) * den ≠
          2 * num ∧
        2 * num ≠
          (unitsOf magnitude + unitsOf (magnitude + 1)) *
            den

namespace IsNearest

variable {magnitude other num den : Nat}

/- A magnitude and the next one are not greater than the one
   before a greater magnitude and that one. -/
theorem neighbours_le (hLess : magnitude < other) :
    unitsOf magnitude ≤ unitsOf (other - 1) ∧
      unitsOf (magnitude + 1) ≤ unitsOf other :=
  ⟨strictMono_unitsOf.monotone (by omega),
    strictMono_unitsOf.monotone hLess⟩

/- So their midpoints are in order, too. -/
theorem midpoint_le_midpoint
    (hLess : magnitude < other)
    (den : Nat) :
    (unitsOf magnitude + unitsOf (magnitude + 1)) * den ≤
      (unitsOf (other - 1) + unitsOf other) * den := by
  rcases neighbours_le hLess with ⟨hBelow, hAbove⟩
  exact Nat.mul_le_mul_right den (Nat.add_le_add hBelow hAbove)

/- A quotient that is nearest to a magnitude is not nearest
   to a greater one. -/
theorem not_lt
    (hDen : 0 < den)
    (hNearest : IsNearest magnitude num den)
    (hOther : IsNearest other num den) :
    ¬ magnitude < other := by
  intro hLess
  rcases neighbours_le hLess with ⟨hBelow, hAbove⟩
  have hHigh := hNearest.high
  have hLow := hOther.low
  have hMid := midpoint_le_midpoint hLess den
  -- both midpoints are the quotient, so they are the same
  have hSame :
      (unitsOf magnitude + unitsOf (magnitude + 1)) * den =
        (unitsOf (other - 1) + unitsOf other) * den := by
    omega
  have hSum := Nat.eq_of_mul_eq_mul_right hDen hSame
  have hNext : magnitude + 1 = other :=
    strictMono_unitsOf.injective (by omega)
  have hFirst : magnitude % 2 ≠ 1 := fun hOdd =>
    (hNearest.odd hOdd).2 (by omega)
  have hSecond : other % 2 ≠ 1 := fun hOdd =>
    (hOther.odd hOdd).1 (by omega)
  omega

theorem unique
    (hDen : 0 < den)
    (hNearest : IsNearest magnitude num den)
    (hOther : IsNearest other num den) :
    magnitude = other :=
  Nat.le_antisymm
    (Nat.not_lt.mp (hOther.not_lt hDen hNearest))
    (Nat.not_lt.mp (hNearest.not_lt hDen hOther))

/- A greater quotient is not nearest to a smaller
   magnitude. -/
theorem mono
    {num' : Nat}
    (hDen : 0 < den)
    (hNearest : IsNearest magnitude num den)
    (hOther : IsNearest other num' den)
    (hLe : num ≤ num') :
    magnitude ≤ other := by
  by_contra hLess
  rw [Nat.not_le] at hLess
  have hMid := midpoint_le_midpoint hLess den
  -- so there is only one quotient, on the common midpoint
  have hSame : num' = num := by
    have hHigh := hOther.high
    have hLow := hNearest.low
    omega
  subst hSame
  exact hOther.not_lt hDen hNearest hLess

/- A value is nearest to its own magnitude. -/
theorem of_unitsOf
    (hDen : 0 < den)
    (hValue : num = unitsOf magnitude * den) :
    IsNearest magnitude num den := by
  have hBelow :
      unitsOf (magnitude - 1) ≤ unitsOf magnitude :=
    strictMono_unitsOf.monotone (Nat.sub_le magnitude 1)
  have hAbove :
      unitsOf magnitude < unitsOf (magnitude + 1) :=
    strictMono_unitsOf (Nat.lt_succ_self magnitude)
  have hDouble :
      2 * num =
        (unitsOf magnitude + unitsOf magnitude) * den := by
    rw [hValue]
    ring
  refine { low := ?_, high := ?_, odd := ?_ }
  · rw [hDouble]
    exact Nat.mul_le_mul_right den (by omega)
  · rw [hDouble]
    exact Nat.mul_le_mul_right den (by omega)
  · intro hOdd
    have hBefore :
        unitsOf (magnitude - 1) < unitsOf magnitude :=
      strictMono_unitsOf (by omega)
    rw [hDouble]
    constructor
    · apply Nat.ne_of_lt
      exact Nat.mul_lt_mul_of_pos_right (by omega) hDen
    · apply Nat.ne_of_lt
      exact Nat.mul_lt_mul_of_pos_right (by omega) hDen

/- Only the quotient matters, not how it is written. -/
theorem scale
    {num' den' : Nat}
    (hDen : 0 < den)
    (hDen' : 0 < den')
    (hSame : num' * den = num * den')
    (hNearest : IsNearest magnitude num den) :
    IsNearest magnitude num' den' := by
  have hTwice : 2 * num' * den = 2 * num * den' := by
    rw [Nat.mul_assoc, hSame, ← Nat.mul_assoc]
  have hSwap (value : Nat) :
      value * den' * den = value * den * den' :=
    Nat.mul_right_comm value den' den
  have hLow (value : Nat) :
      value * den' ≤ 2 * num' ↔ value * den ≤ 2 * num := by
    rw [← Nat.mul_le_mul_right_iff hDen, hSwap, hTwice,
      Nat.mul_le_mul_right_iff hDen']
  have hHigh (value : Nat) :
      2 * num' ≤ value * den' ↔ 2 * num ≤ value * den := by
    rw [← Nat.mul_le_mul_right_iff hDen, hSwap, hTwice,
      Nat.mul_le_mul_right_iff hDen']
  refine
    { low := (hLow _).mpr hNearest.low
      high := (hHigh _).mpr hNearest.high
      odd := ?_ }
  intro hOdd
  rcases hNearest.odd hOdd with ⟨hNotLow, hNotHigh⟩
  refine ⟨?_, ?_⟩
  · intro hMid
    exact
      hNotLow
        (Nat.le_antisymm hNearest.low
          ((hHigh _).mp hMid.symm.le))
  · intro hMid
    exact
      hNotHigh
        (Nat.le_antisymm hNearest.high
          ((hLow _).mp hMid.symm.le))

end IsNearest

------------------------------------------------------------
-- Rounding
------------------------------------------------------------

/- The whole number is not further from the quotient than
   one half, and just one half only if it is even. -/
theorem roundHalfEven_spec
    (num : Nat)
    {den : Nat}
    (hDen : 0 < den) :
    2 * (roundHalfEven num den * den) ≤ 2 * num + den ∧
      2 * num ≤ 2 * (roundHalfEven num den * den) + den ∧
      (roundHalfEven num den % 2 = 1 →
        2 * (roundHalfEven num den * den) ≠ 2 * num + den ∧
          2 * num ≠
            2 * (roundHalfEven num den * den) + den) := by
  have hSplit := Nat.div_add_mod' num den
  have hLess := Nat.mod_lt num hDen
  have hNext : (num / den + 1) * den =
      num / den * den + den :=
    Nat.succ_mul _ _
  unfold roundHalfEven
  dsimp only
  split
  next => omega
  next =>
    split
    next => omega
    next =>
      rcases Nat.mod_two_eq_zero_or_one (num / den) with
        hEven | hOdd
      · rw [hEven, Nat.add_zero]
        omega
      · rw [hOdd]
        omega

/- How many bits of a whole number are too many. -/
def excess (whole : Nat) : Nat :=
  if whole < twoTo 53 then 0 else whole.log2 - 52

/- Without them, the number is a count that is not carried. -/
theorem excess_spec (whole : Nat) :
    whole < twoTo 53 * twoTo (excess whole) ∧
      (excess whole = 0 ∨
        twoTo 52 * twoTo (excess whole) ≤ whole) := by
  unfold excess
  split
  next hSmall =>
    refine ⟨?_, Or.inl rfl⟩
    change whole < twoTo 53 * 1
    rwa [Nat.mul_one]
  next hLarge =>
    have hNonzero : whole ≠ 0 := by
      rintro rfl
      exact hLarge (twoTo_pos 53)
    have hLog : 53 ≤ whole.log2 :=
      (Nat.le_log2 hNonzero).mpr (Nat.not_lt.mp hLarge)
    rw [← twoTo_add, ← twoTo_add]
    refine ⟨?_, Or.inr ?_⟩
    · have hSum :
          53 + (whole.log2 - 52) = whole.log2 + 1 := by
        omega
      rw [hSum]
      exact Nat.lt_log2_self
    · have hSum : 52 + (whole.log2 - 52) = whole.log2 := by
        omega
      rw [hSum]
      exact Nat.log2_self_le hNonzero

section Counts

variable {magnitude shift count num den : Nat}

theorem IsCount.unitsOf_mul_eq
    (hCount : IsCount magnitude shift count)
    (den : Nat) :
    unitsOf magnitude * den =
      count * (twoTo shift * den) := by
  rw [hCount.unitsOf_eq, Nat.mul_assoc]

/- A quotient that is not more than half a unit below the
   count is not below the midpoint. Where a block starts, the
   quotient is not below the count at all. -/
theorem IsCount.low_le
    (hCount : IsCount magnitude shift count)
    (hAbove :
      2 * (count * (twoTo shift * den)) ≤
        2 * num + twoTo shift * den)
    (hFloor :
      shift = 0 ∨ twoTo 52 * (twoTo shift * den) ≤ num) :
    (unitsOf (magnitude - 1) + unitsOf magnitude) * den ≤
      2 * num := by
  have hValue := hCount.unitsOf_mul_eq den
  rw [Nat.add_mul, hValue]
  by_cases hStart : 0 < count ∧
      (shift = 0 ∨ twoTo 52 < count)
  · have hStep := hCount.pred_step hStart.1 hStart.2 den
    omega
  · have hPred :
        unitsOf (magnitude - 1) * den ≤
          count * (twoTo shift * den) := by
      rw [← hValue]
      apply Nat.mul_le_mul_right
      apply strictMono_unitsOf.monotone
      exact Nat.sub_le magnitude 1
    have hPos := twoTo_pos 52
    by_cases hShift : shift = 0
    · have hZero : count = 0 := by omega
      rw [hZero, Nat.zero_mul] at hPred ⊢
      omega
    · -- the units are half as large below
      have hBlockStart : count = twoTo 52 := by
        have hFull := hCount.normal.resolve_left hShift
        omega
      have hNum := hFloor.resolve_left hShift
      rw [hBlockStart] at hPred ⊢
      omega

/- Next to an odd count, both midpoints are half a unit
   away. -/
theorem IsCount.midpoints_of_odd
    (hCount : IsCount magnitude shift count)
    (hOdd : count % 2 = 1)
    (den : Nat) :
    (unitsOf (magnitude - 1) + unitsOf magnitude) * den +
          twoTo shift * den =
        2 * (count * (twoTo shift * den)) ∧
      (unitsOf magnitude + unitsOf (magnitude + 1)) * den =
        2 * (count * (twoTo shift * den)) +
          twoTo shift * den := by
  have hValue := hCount.unitsOf_mul_eq den
  have hNotBlock : count ≠ twoTo 52 := by
    rintro rfl
    exact absurd hOdd (by decide)
  have hNotCarried : count ≠ twoTo 53 := by
    rintro rfl
    exact absurd hOdd (by decide)
  have hInside : shift = 0 ∨ twoTo 52 < count := by
    have hNormal := hCount.normal
    omega
  have hStart := hCount.pred_step (by omega) hInside den
  have hEnd :=
    hCount.unitsOf_succ
      (Nat.lt_of_le_of_ne hCount.fits hNotCarried)
  have hNext :
      unitsOf (magnitude + 1) * den =
        count * (twoTo shift * den) + twoTo shift * den := by
    rw [hEnd, Nat.mul_assoc, Nat.succ_mul]
  rw [Nat.add_mul, Nat.add_mul, hValue]
  omega

/-
  The quotient is nearest to the count that is found by
  rounding it to whole units. At the ends of a block, where
  the units change, the count is even.
-/
theorem IsCount.isNearest
    (hDen : 0 < den)
    (hCount : IsCount magnitude shift count)
    (hRounded :
      count = roundHalfEven num (twoTo shift * den))
    (hFloor :
      shift = 0 ∨ twoTo 52 * (twoTo shift * den) ≤ num) :
    IsNearest magnitude num den := by
  have hUnit : 0 < twoTo shift * den :=
    Nat.mul_pos (twoTo_pos shift) hDen
  rcases roundHalfEven_spec num hUnit with
    ⟨hAbove, hBelow, hOdd⟩
  rw [← hRounded] at hAbove hBelow hOdd
  refine
    { low := hCount.low_le hAbove hFloor
      high := ?_
      odd := ?_ }
  · have hStep := hCount.succ_step den
    rw [Nat.add_mul, hCount.unitsOf_mul_eq den]
    omega
  · intro hParity
    rw [hCount.parity] at hParity
    have hMidpoints := hCount.midpoints_of_odd hParity den
    have hNotHalf := hOdd hParity
    omega

end Counts

/- Some magnitude is nearest to a quotient, and rounding gives
   it unless it is infinite. -/
theorem exists_isNearest
    (num : Nat)
    {den : Nat}
    (hDen : 0 < den) :
    ∃ magnitude,
      IsNearest magnitude num den ∧
        roundedMagnitude num den =
          min infinityMagnitude magnitude := by
  let shift := excess (num / den)
  let scaled := den * twoTo shift
  let count := roundHalfEven num scaled
  have hScaled : 0 < scaled :=
    Nat.mul_pos hDen (twoTo_pos shift)
  rcases excess_spec (num / den) with ⟨hFits, hFloor⟩
  have hQuotient : num / scaled < twoTo 53 := by
    rw [← Nat.div_div_eq_div_mul]
    exact Nat.div_lt_of_lt_mul (by rwa [Nat.mul_comm])
  have hNormal :
      shift = 0 ∨ twoTo 52 ≤ num / scaled := by
    refine hFloor.imp_right ?_
    intro hLe
    rw [← Nat.div_div_eq_div_mul]
    exact (Nat.le_div_iff_mul_le (twoTo_pos shift)).mpr hLe
  have hCount :
      IsCount (shift * twoTo 52 + count) shift count :=
    { magnitude_eq := rfl
      fits :=
        (roundHalfEven_le_div_succ num scaled).trans hQuotient
      normal :=
        hNormal.imp_right fun hLe =>
          hLe.trans (div_le_roundHalfEven num scaled) }
  refine ⟨shift * twoTo 52 + count, ?_, rfl⟩
  apply hCount.isNearest hDen
  · rw [Nat.mul_comm]
  · refine hNormal.imp_right ?_
    intro hLe
    rw [Nat.mul_comm (twoTo shift)]
    exact (Nat.le_div_iff_mul_le hScaled).mp hLe

/- Rounding gives the nearest magnitude, if it is finite. -/
theorem roundedMagnitude_eq
    {magnitude num den : Nat}
    (hDen : 0 < den)
    (hNearest : IsNearest magnitude num den) :
    roundedMagnitude num den =
      min infinityMagnitude magnitude := by
  rcases exists_isNearest num hDen with
    ⟨other, hOther, hRounded⟩
  rw [hRounded, hOther.unique hDen hNearest]

end Binary64

end LatencySweep
