import LatencySweep.Number.Shortest
import LatencySweep.Proofs.Number.Digits
import LatencySweep.Proofs.Number.Nearest

/-
  The shortest decimal of a magnitude is nearest to it.

  Decimals are searched on grids of growing fineness. The
  last grid has seventeen digits, and there its spacing is
  less than the distance to either neighbour, so one of the
  two grid points around the magnitude reads back.

  Main declarations:
    * `Binary64.IsNearestDecimal`
    * `Binary64.readsBack_iff`
    * `Binary64.exists_onGrid?`
    * `Binary64.isNearest_shortest`
-/

namespace LatencySweep

namespace Binary64

variable {magnitude : Nat}

------------------------------------------------------------
-- Nearest Decimals
------------------------------------------------------------

/- The decimal, as a quotient of units, is nearest to the
   magnitude. -/
def IsNearestDecimal
    (magnitude : Nat)
    (d : Decimal) : Prop :=
  IsNearest magnitude
    (d.coefficient * (unitsPerOne * tenPowNum d.exponent))
    (tenPowDen d.exponent)

theorem tenPowNum_pos (exponent : Int) :
    0 < tenPowNum exponent :=
  tenTo_pos exponent.toNat

theorem tenPowDen_pos (exponent : Int) :
    0 < tenPowDen exponent :=
  tenTo_pos (-exponent).toNat

/- A decimal strictly between the midpoints is nearest. -/
theorem IsNearest.of_lt
    {num den : Nat}
    (hLow :
      (unitsOf (magnitude - 1) + unitsOf magnitude) * den <
        2 * num)
    (hHigh :
      2 * num <
        (unitsOf magnitude + unitsOf (magnitude + 1)) *
          den) :
    IsNearest magnitude num den :=
  { low := hLow.le
    high := hHigh.le
    odd := fun _ => ⟨hLow.ne, hHigh.ne⟩ }

/- The decimals that read back are the nearest ones. -/
theorem readsBack_iff (d : Decimal) :
    readsBack magnitude d = true ↔
      IsNearestDecimal magnitude d := by
  have hTwice :
      2 * d.coefficient * unitsPerOne * tenPowNum d.exponent =
        2 * (d.coefficient *
          (unitsPerOne * tenPowNum d.exponent)) := by
    simp only [Nat.mul_assoc]
  unfold readsBack IsNearestDecimal
  rw [hTwice]
  dsimp only
  split
  next hEven =>
    rw [Bool.and_eq_true, decide_eq_true_eq,
      decide_eq_true_eq]
    constructor
    · rintro ⟨hLow, hHigh⟩
      exact
        { low := hLow
          high := hHigh
          odd := fun hOdd => by omega }
    · intro hNearest
      exact ⟨hNearest.low, hNearest.high⟩
  next hOdd =>
    rw [Bool.and_eq_true, decide_eq_true_eq,
      decide_eq_true_eq]
    constructor
    · rintro ⟨hLow, hHigh⟩
      exact IsNearest.of_lt hLow hHigh
    · intro hNearest
      rcases hNearest.odd (by omega) with ⟨hNotLow, hNotHigh⟩
      exact
        ⟨Nat.lt_of_le_of_ne hNearest.low hNotLow,
          Nat.lt_of_le_of_ne hNearest.high hNotHigh⟩

/- What is found on a grid reads back. -/
theorem isNearest_of_onGrid?
    {tie : Tie}
    {exponent : Int}
    {d : Decimal}
    (hFound : onGrid? tie magnitude exponent = some d) :
    IsNearestDecimal magnitude d := by
  rw [← readsBack_iff]
  unfold onGrid? at hFound
  dsimp only at hFound
  split at hFound
  next hBelow hAbove =>
    split at hFound
    next =>
      cases hFound
      exact hBelow
    next =>
      cases hFound
      exact hAbove
  next hBelow _ =>
    cases hFound
    exact hBelow
  next _ hAbove =>
    cases hFound
    exact hAbove
  next => cases hFound

------------------------------------------------------------
-- Distances to the Neighbours
------------------------------------------------------------

/- A positive magnitude is a count that the one before it
   shares the units of. -/
theorem exists_isCount_inside
    (hPos : 0 < magnitude) :
    ∃ shift count,
      IsCount magnitude shift count ∧ 0 < count ∧
        (shift = 0 ∨ twoTo 52 < count) := by
  have hBlock := twoTo_pos 52
  have hDouble := twoTo_53
  rcases exists_isCount magnitude with
    ⟨shift, count, hCount, hFits⟩
  have hMagnitude := hCount.magnitude_eq
  have hNormal := hCount.normal
  cases shift with
  | zero => exact ⟨0, count, hCount, by omega, Or.inl rfl⟩
  | succ shift =>
      by_cases hInside : twoTo 52 < count
      · exact
          ⟨shift + 1, count, hCount, by omega,
            Or.inr hInside⟩
      · refine
          ⟨shift, twoTo 53, ?_, by omega,
            Or.inr (by omega)⟩
        rw [Nat.succ_mul] at hMagnitude
        exact
          { magnitude_eq := by omega
            fits := Nat.le_refl _
            normal := Or.inr (by omega) }

/- The magnitude before is closer by one unit, and there are
   no more than `2 ^ 53` units. -/
theorem exists_gap_below
    (hPos : 0 < magnitude) :
    ∃ gap,
      unitsOf (magnitude - 1) + gap = unitsOf magnitude ∧
        unitsOf magnitude ≤ twoTo 53 * gap := by
  rcases exists_isCount_inside hPos with
    ⟨shift, count, hCount, hSome, hInside⟩
  refine ⟨twoTo shift, ?_, ?_⟩
  · have hStep := hCount.pred_step hSome hInside 1
    rw [hCount.unitsOf_eq]
    simpa using hStep
  · rw [hCount.unitsOf_eq]
    exact Nat.mul_le_mul_right _ hCount.fits

/- The same for the magnitude after. -/
theorem exists_gap_above (magnitude : Nat) :
    ∃ gap,
      unitsOf magnitude + gap ≤ unitsOf (magnitude + 1) ∧
        unitsOf magnitude ≤ twoTo 53 * gap := by
  rcases exists_isCount magnitude with ⟨shift, count, hCount, -⟩
  refine ⟨twoTo shift, ?_, ?_⟩
  · have hStep := hCount.succ_step 1
    rw [hCount.unitsOf_eq]
    simpa using hStep
  · rw [hCount.unitsOf_eq]
    exact Nat.mul_le_mul_right _ hCount.fits

------------------------------------------------------------
-- The Finest Grid
------------------------------------------------------------

/- On a grid of seventeen digits, the spacing is less than
   the distance to a neighbour. -/
theorem spacing_lt_gap
    {units spacing scale gap : Nat}
    (hPos : 0 < units * scale)
    (hGrid : tenTo 16 * spacing ≤ units * scale)
    (hGap : units ≤ twoTo 53 * gap) :
    spacing < gap * scale := by
  by_contra hNot
  have hLe : gap * scale ≤ spacing := Nat.not_lt.mp hNot
  have hUnits : units * scale ≤ twoTo 53 * spacing :=
    calc units * scale
        ≤ twoTo 53 * gap * scale :=
          Nat.mul_le_mul_right scale hGap
      _ = twoTo 53 * (gap * scale) := Nat.mul_assoc _ _ _
      _ ≤ twoTo 53 * spacing := Nat.mul_le_mul_left _ hLe
  have hSpacing : 0 < spacing := by
    apply Nat.pos_of_ne_zero
    rintro rfl
    omega
  have hFiner :
      twoTo 53 * spacing < tenTo 16 * spacing :=
    Nat.mul_lt_mul_of_pos_right (by decide) hSpacing
  omega

/- A point below the magnitude is nearest to it within half
   the distance to the magnitude before. -/
theorem isNearest_of_below
    {point rest scale gap : Nat}
    (hScale : 0 < scale)
    (hGap : unitsOf (magnitude - 1) + gap = unitsOf magnitude)
    (hPoint : point + rest = unitsOf magnitude * scale)
    (hNear : 2 * rest < gap * scale) :
    IsNearest magnitude point scale := by
  have hBefore := congrArg (· * scale) hGap
  have hAfter :
      unitsOf magnitude * scale <
        unitsOf (magnitude + 1) * scale :=
    Nat.mul_lt_mul_of_pos_right
      (strictMono_unitsOf (Nat.lt_succ_self magnitude)) hScale
  simp only [Nat.add_mul] at hBefore
  apply IsNearest.of_lt
  · rw [Nat.add_mul]
    omega
  · rw [Nat.add_mul]
    omega

/- A point above the magnitude is nearest to it within half
   the distance to the magnitude after. -/
theorem isNearest_of_above
    {point rest scale gap : Nat}
    (hPos : 0 < magnitude)
    (hScale : 0 < scale)
    (hGap : unitsOf magnitude + gap ≤ unitsOf (magnitude + 1))
    (hPoint : unitsOf magnitude * scale + rest = point)
    (hNear : 2 * rest < gap * scale) :
    IsNearest magnitude point scale := by
  have hAfter := Nat.mul_le_mul_right scale hGap
  have hBefore :
      unitsOf (magnitude - 1) * scale <
        unitsOf magnitude * scale :=
    Nat.mul_lt_mul_of_pos_right
      (strictMono_unitsOf (Nat.sub_lt hPos Nat.one_pos)) hScale
  rw [Nat.add_mul] at hAfter
  apply IsNearest.of_lt
  · rw [Nat.add_mul]
    omega
  · rw [Nat.add_mul]
    omega

/- On such a grid, one of the two points around the magnitude
   is nearest to it, namely the nearer one. -/
theorem isNearest_around
    {spacing scale : Nat}
    (hPos : 0 < magnitude)
    (hScale : 0 < scale)
    (hSpacing : 0 < spacing)
    (hGrid :
      tenTo 16 * spacing ≤ unitsOf magnitude * scale) :
    IsNearest magnitude
        (unitsOf magnitude * scale / spacing * spacing)
        scale ∨
      IsNearest magnitude
        ((unitsOf magnitude * scale / spacing + 1) * spacing)
        scale := by
  have hValue : 0 < unitsOf magnitude * scale :=
    Nat.mul_pos (strictMono_unitsOf hPos) hScale
  rcases exists_gap_below hPos with
    ⟨below, hBelow, hBelowUnits⟩
  rcases exists_gap_above magnitude with
    ⟨above, hAbove, hAboveUnits⟩
  have hBelowFine := spacing_lt_gap hValue hGrid hBelowUnits
  have hAboveFine := spacing_lt_gap hValue hGrid hAboveUnits
  have hRest :=
    Nat.mod_lt (unitsOf magnitude * scale) hSpacing
  have hSplit :=
    Nat.div_add_mod' (unitsOf magnitude * scale) spacing
  by_cases hNear :
      2 * (unitsOf magnitude * scale % spacing) ≤ spacing
  · left
    exact
      isNearest_of_below hScale hBelow hSplit
        (hNear.trans_lt hBelowFine)
  · right
    let rest :=
      spacing - unitsOf magnitude * scale % spacing
    have hPoint :
        unitsOf magnitude * scale + rest =
          (unitsOf magnitude * scale / spacing + 1) *
            spacing := by
      dsimp only [rest]
      rw [Nat.succ_mul]
      omega
    have hCloser : 2 * rest < above * scale := by
      dsimp only [rest]
      omega
    exact
      isNearest_of_above hPos hScale hAbove hPoint hCloser

/- So a grid of seventeen digits has a decimal that reads
   back. -/
theorem exists_onGrid?
    (tie : Tie)
    {exponent : Int}
    (hPos : 0 < magnitude)
    (hGrid :
      tenTo 16 * (unitsPerOne * tenPowNum exponent) ≤
        unitsOf magnitude * tenPowDen exponent) :
    ∃ d, onGrid? tie magnitude exponent = some d := by
  have hSpacing :
      0 < unitsPerOne * tenPowNum exponent :=
    Nat.mul_pos (twoTo_pos 1074) (tenPowNum_pos exponent)
  have hAround :=
    isNearest_around hPos (tenPowDen_pos exponent) hSpacing
      hGrid
  unfold onGrid?
  dsimp only
  split
  next =>
    split
    next => exact ⟨_, rfl⟩
    next => exact ⟨_, rfl⟩
  next => exact ⟨_, rfl⟩
  next => exact ⟨_, rfl⟩
  next hNotBelow hNotAbove =>
    rw [Bool.eq_false_iff, Ne, readsBack_iff] at hNotBelow
    rw [Bool.eq_false_iff, Ne, readsBack_iff] at hNotAbove
    rcases hAround with hBelow | hAbove
    · exact absurd hBelow hNotBelow
    · exact absurd hAbove hNotAbove

/- A power of ten as a quotient, with any offset. -/
theorem tenTo_mul_tenPowDen
    {m n : Nat}
    {exponent : Int}
    (hSum : (m : Int) = n + exponent) :
    tenTo m * tenPowDen exponent =
      tenTo n * tenPowNum exponent := by
  unfold tenPowDen tenPowNum
  rw [← tenTo_add, ← tenTo_add]
  congr 1
  omega

/- Sixteen digits behind the leading one, the grid is fine
   enough. -/
theorem finest_grid
    {units : Nat}
    (hPos : 0 < units) :
    tenTo 16 *
        (unitsPerOne *
          tenPowNum (leadingExponent units - 16)) ≤
      units * tenPowDen (leadingExponent units - 16) := by
  let whole := units * tenTo 340 / unitsPerOne
  let digits := (decimalDigits whole).length
  have hOne : 0 < unitsPerOne := twoTo_pos 1074
  have hDigits : 0 < digits := Nat.length_toDigits_pos
  have hWhole : 0 < whole := by
    apply Nat.div_pos _ hOne
    calc unitsPerOne
        ≤ tenTo 340 := by decide +kernel
      _ ≤ units * tenTo 340 := Nat.le_mul_of_pos_left _ hPos
  have hLeading : tenTo (digits - 1) ≤ whole :=
    tenTo_le_of_lt_length hWhole
      (Nat.sub_lt hDigits Nat.one_pos)
  have hUnits :
      tenTo (digits - 1) * unitsPerOne ≤ units * tenTo 340 :=
    (Nat.le_div_iff_mul_le hOne).mp hLeading
  let exponent := leadingExponent units - 16
  have hExponent : ((digits - 1 : Nat) : Int) =
      (356 : Nat) + exponent := by
    change _ = _ + ((digits : Int) - 341 - 16)
    omega
  have hScaled := tenTo_mul_tenPowDen hExponent
  apply Nat.le_of_mul_le_mul_right _ (tenTo_pos 340)
  calc tenTo 16 * (unitsPerOne * tenPowNum exponent) *
        tenTo 340
      = tenTo (16 + 340) * tenPowNum exponent *
          unitsPerOne := by
        rw [tenTo_add 16 340]
        ring
    _ = tenTo (digits - 1) * unitsPerOne *
          tenPowDen exponent := by
        rw [← hScaled, Nat.mul_right_comm]
    _ ≤ units * tenTo 340 * tenPowDen exponent :=
        Nat.mul_le_mul_right _ hUnits
    _ = units * tenPowDen exponent * tenTo 340 :=
        Nat.mul_right_comm _ _ _

/- The shortest decimal reads back. -/
theorem isNearest_shortest
    (tie : Tie)
    (hPos : 0 < magnitude) :
    IsNearestDecimal magnitude (shortest tie magnitude) := by
  let leading := leadingExponent (unitsOf magnitude)
  let grids := (List.range 17).map fun (n : Nat) =>
    leading - (n : Int)
  have hFinest : leading - 16 ∈ grids :=
    List.mem_map.mpr ⟨16, by decide, rfl⟩
  rcases exists_onGrid? tie hPos
      (finest_grid (strictMono_unitsOf hPos)) with
    ⟨last, hLast⟩
  cases hFound : grids.findSome? (onGrid? tie magnitude) with
  | none =>
      have hNone :=
        List.findSome?_eq_none_iff.mp hFound _ hFinest
      rw [hNone] at hLast
      cases hLast
  | some d =>
      have hShortest : shortest tie magnitude = d := by
        change (grids.findSome? _).getD _ = d
        rw [hFound]
        rfl
      rcases List.exists_of_findSome?_eq_some hFound with
        ⟨exponent, -, hGrid⟩
      rw [hShortest]
      exact isNearest_of_onGrid? hGrid

end Binary64

end LatencySweep
