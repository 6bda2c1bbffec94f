import LatencySweep.Proofs.Cdf.Samples
import LatencySweep.Proofs.Number.Value

/-
  The ladder of a sample is its distribution function.

  Sorted values that are not greater than a threshold stand
  in front of all others, so the step at the threshold is
  the one that their number leads to. Steps are quotients of
  counts, rounded to the nearest float. The counts are
  rounded themselves, so the float nearest to their exact
  quotient is met for up to `2 ^ 53` samples only.

  Main declarations:
    * `Cdf.stepAt`
    * `Cdf.IsShare`
    * `Cdf.isShare_div`
    * `Cdf.stepAt_eq`
    * `Cdf.IsDistributionOf`
    * `Cdf.distribution_of_samples`
    * `Cdf.not_isRoundingOf_overfull`
-/

namespace LatencySweep

------------------------------------------------------------
-- Fronts of Sorted Lists
------------------------------------------------------------

/- What holds of each element in front of one that it holds
   of picks the front of the list. -/
theorem filter_eq_take_countP
    {α : Type}
    {holds : α → Bool}
    {values : List α}
    (hDown :
      values.Pairwise fun a b =>
        holds b = true → holds a = true) :
    values.filter holds =
      values.take (values.countP holds) := by
  induction values with
  | nil => rfl
  | cons first values ih =>
      rcases List.pairwise_cons.mp hDown with ⟨hFirst, hRest⟩
      by_cases hHolds : holds first = true
      · rw [List.filter_cons_of_pos hHolds,
          List.countP_cons_of_pos hHolds, List.take_succ_cons,
          ih hRest]
      · have hNone : ∀ value ∈ values, ¬ holds value = true :=
          fun value hMem hValue => hHolds (hFirst value hMem hValue)
        rw [List.filter_cons_of_neg hHolds,
          List.countP_cons_of_neg hHolds,
          List.filter_eq_nil_iff.mpr hNone,
          List.countP_eq_zero.mpr hNone, List.take_zero]

namespace Cdf

variable {samples : List Binary64} {cdf : Cdf}
variable {threshold : Binary64} {part whole : Nat}

/- How many values are not greater than the threshold. -/
def countUpTo
    (values : List Binary64)
    (threshold : Binary64) : Nat :=
  values.countP (·.totalLe threshold)

/- A value in front of one that is not greater than the
   threshold is not greater, either. -/
theorem pairwise_totalLe
    {values : List Binary64}
    (hSorted :
      values.Pairwise fun a b => a.totalLe b = true)
    (threshold : Binary64) :
    values.Pairwise fun a b =>
      b.totalLe threshold = true →
        a.totalLe threshold = true := by
  refine hSorted.imp ?_
  intro a b hFirst hSecond
  simp only [Binary64.totalLe, decide_eq_true_eq] at *
  exact hFirst.trans hSecond

------------------------------------------------------------
-- Steps
------------------------------------------------------------

/- The step of the last value that is not greater than the
   threshold, or zero. -/
def stepAt (cdf : Cdf) (threshold : Binary64) : Binary64 :=
  match
    ((cdf.x.zip cdf.y).filter
      (·.1.totalLe threshold)).getLast? with
  | some (_, step) => step
  | none => .zero false

/- The step at a threshold is found by counting. -/
theorem stepAt_eq
    (hSorted : cdf.x.Pairwise fun a b => a.totalLe b = true)
    (hLength : cdf.y.length = cdf.x.length)
    (threshold : Binary64) :
    cdf.stepAt threshold =
      match countUpTo cdf.x threshold with
      | 0 => .zero false
      | count + 1 => cdf.y.getD count (.zero false) := by
  have hFirsts : (cdf.x.zip cdf.y).map Prod.fst = cdf.x :=
    List.map_fst_zip hLength.ge
  have hDown := pairwise_totalLe hSorted threshold
  rw [← hFirsts, List.pairwise_map] at hDown
  have hCount :
      (cdf.x.zip cdf.y).countP (·.1.totalLe threshold) =
        countUpTo cdf.x threshold := by
    unfold countUpTo
    conv_rhs => rw [← hFirsts, List.countP_map]
    rfl
  unfold stepAt
  rw [filter_eq_take_countP hDown, hCount]
  cases hUpTo : countUpTo cdf.x threshold with
  | zero => rfl
  | succ count =>
      have hLess : count < cdf.x.length := by
        have hAll : countUpTo cdf.x threshold ≤ cdf.x.length :=
          List.countP_le_length
        omega
      have hLess' : count < cdf.y.length := by omega
      have hPlace : count < (cdf.x.zip cdf.y).length := by
        rw [List.length_zip]
        omega
      rw [List.take_succ_eq_append_getElem hPlace,
        List.getLast?_concat, List.getElem_zip]
      dsimp only
      rw [List.getD_eq_getElem?_getD,
        List.getElem?_eq_getElem hLess', Option.getD_some]

------------------------------------------------------------
-- Shares
------------------------------------------------------------

/-
  The float is the rounded quotient of two counts that are
  rounded themselves. Counts up to `2 ^ 53` are floats, and
  then it is their exact quotient that is rounded. For more
  samples it may be a float next to the nearest one.
-/
structure IsShare
    (step : Binary64)
    (part whole : Nat) : Prop where
  part_rounded : (Binary64.ofNat part).IsRoundingOf part
  whole_rounded : (Binary64.ofNat whole).IsRoundingOf whole
  rounded :
    step.IsRoundingOf
      ((Binary64.ofNat part).toRat /
        (Binary64.ofNat whole).toRat)
  exact :
    whole ≤ twoTo 53 → step.IsRoundingOf (part / whole)

/- Small counts are not changed by their rounding. -/
theorem IsShare.of_rounded
    {step : Binary64}
    (hLe : part ≤ whole)
    (hWord : whole < twoTo 64)
    (hRounded :
      step.IsRoundingOf
        ((Binary64.ofNat part).toRat /
          (Binary64.ofNat whole).toRat)) :
    IsShare step part whole := by
  refine
    { part_rounded :=
        Binary64.isRoundingOf_ofNat (hLe.trans_lt hWord)
      whole_rounded := Binary64.isRoundingOf_ofNat hWord
      rounded := hRounded
      exact := ?_ }
  intro hFits
  rwa [Binary64.toRat_ofNat (hLe.trans hFits),
    Binary64.toRat_ofNat hFits] at hRounded

/- A step of a ladder is a share. -/
theorem isShare_div
    (hPos : 0 < whole)
    (hLe : part ≤ whole)
    (hWord : whole < twoTo 64) :
    IsShare (Binary64.ofNat part / Binary64.ofNat whole) part
      whole := by
  apply IsShare.of_rounded hLe hWord
  exact
    (Binary64.isRoundingOf_div rfl rfl
      (Binary64.isNearest_ofNat hWord).1
      (Binary64.units_ofNat_pos hPos hWord)
      (Binary64.units_ofNat_mono hLe hWord)).2

/- Zero is the share of none. -/
theorem isShare_zero (hWord : whole < twoTo 64) :
    IsShare (.zero false) 0 whole := by
  apply IsShare.of_rounded (Nat.zero_le whole) hWord
  have hNearest :
      Binary64.IsNearest
        (Binary64.zero false).magnitude 0 1 :=
    .of_unitsOf Nat.one_pos (by decide +kernel)
  have hRounding :=
    hNearest.isRoundingOf rfl (by decide) Nat.one_pos
  have hZero : (Binary64.ofNat 0).toRat = 0 := by
    rw [Binary64.toRat_ofNat (Nat.zero_le _), Nat.cast_zero]
  rw [Nat.cast_zero, zero_div] at hRounding
  rwa [hZero, zero_div]

/- The share of all is one. -/
theorem ofNat_div_self
    (hPos : 0 < whole)
    (hWord : whole < twoTo 64) :
    Binary64.ofNat whole / Binary64.ofNat whole =
      Binary64.ofNat 1 := by
  have hUnits := Binary64.units_ofNat_pos hPos hWord
  have hNonzero : (Binary64.ofNat whole).toRat ≠ 0 := by
    rw [Binary64.toRat_of_positive rfl]
    apply ne_of_gt
    exact
      div_pos (Nat.cast_pos.mpr hUnits)
        Binary64.cast_unitsPerOne_pos
  rcases Binary64.isRoundingOf_div
      (Binary64.negative_ofNat whole)
      (Binary64.negative_ofNat whole)
      (Binary64.isNearest_ofNat hWord).1 hUnits
      (Nat.le_refl _) with ⟨hSign, hRounding⟩
  rw [div_self hNonzero] at hRounding
  have hOne : (Binary64.ofNat 1).toRat = 1 := by
    rw [Binary64.toRat_ofNat (by decide : 1 ≤ twoTo 53),
      Nat.cast_one]
  apply Binary64.eq_of_toRat_eq hSign rfl
  rw [hOne]
  exact
    hRounding.toRat_eq
      (Binary64.isNearest_ofNat (by decide : 1 < twoTo 64)).1
      hOne

theorem getElem?_ladder
    {place : Nat}
    (hPlace : place < whole) :
    (ladder whole)[place]? =
      some
        (Binary64.ofNat (place + 1) /
          Binary64.ofNat whole) := by
  unfold ladder
  rw [List.getElem?_map, List.getElem?_range hPlace,
    Option.map_some]

/- Each sample leads to a step of the distribution. -/
theorem exists_step
    {place : Nat}
    (hPlace : place < samples.length) :
    ∃ cdf,
      ofSamples? samples = some cdf ∧
        cdf.y[place]? =
          some
            (Binary64.ofNat (place + 1) /
              Binary64.ofNat samples.length) := by
  have hSome : samples ≠ [] :=
    List.ne_nil_of_length_pos (Nat.zero_lt_of_lt hPlace)
  rcases exists_ofSamples? hSome with ⟨cdf, hCdf, -, hY⟩
  refine ⟨cdf, hCdf, ?_⟩
  rw [hY, getElem?_ladder hPlace]

/- A ladder of few enough steps has no two alike. -/
theorem pairwise_ladder (hFits : whole ≤ twoTo 53) :
    (ladder whole).Pairwise
      fun a b => a.toRat < b.toRat := by
  have hWord : whole < twoTo 64 :=
    hFits.trans_lt (by decide)
  unfold ladder
  rw [List.pairwise_map]
  refine List.pairwise_lt_range.imp_of_mem ?_
  intro i j hI hJ hLess
  rw [List.mem_range] at hI hJ
  have hShare {place : Nat} (hPlace : place < whole) :=
    (isShare_div (by omega) hPlace hWord).exact hFits
  exact
    (hShare hI).toRat_lt (hShare hJ) (by omega) hJ hFits

------------------------------------------------------------
-- Distributions
------------------------------------------------------------

/-
  The values are the sorted samples, and the steps are the
  shares of one sample, of two, and so on up to one. At any
  threshold, the step is the share of the samples that are
  not greater.
-/
structure IsDistributionOf
    (cdf : Cdf)
    (samples : List Binary64) : Prop where
  perm : cdf.x.Perm samples
  sorted : cdf.x.Pairwise fun a b => a.totalLe b = true
  length_y : cdf.y.length = samples.length
  steps :
    ∀ place,
      place < samples.length →
        ∃ step,
          cdf.y[place]? = some step ∧
            IsShare step (place + 1) samples.length
  last : cdf.y.getLast? = some (.ofNat 1)
  increasing :
    samples.length ≤ twoTo 53 →
      cdf.y.Pairwise fun a b => a.toRat < b.toRat
  counts :
    ∀ threshold,
      countUpTo cdf.x threshold = countUpTo samples threshold
  front :
    ∀ threshold,
      cdf.x.filter (·.totalLe threshold) =
        cdf.x.take (countUpTo samples threshold)
  stepAt_none :
    ∀ threshold,
      countUpTo samples threshold = 0 →
        cdf.stepAt threshold = .zero false
  stepAt_some :
    ∀ threshold count,
      countUpTo samples threshold = count + 1 →
        cdf.y[count]? = some (cdf.stepAt threshold)
  stepAt_share :
    ∀ threshold,
      IsShare (cdf.stepAt threshold)
        (countUpTo samples threshold) samples.length

/- The ladder of sorted samples is their distribution. -/
theorem isDistributionOf_of_eq
    (hSome : samples ≠ [])
    (hX : cdf.x = sorted samples)
    (hY : cdf.y = ladder samples.length)
    (hWord : samples.length < twoTo 64) :
    cdf.IsDistributionOf samples := by
  have hPerm : cdf.x.Perm samples := hX ▸ sorted_perm samples
  have hSorted :
      cdf.x.Pairwise fun a b => a.totalLe b = true :=
    hX ▸ pairwise_sorted samples
  have hLength : cdf.y.length = samples.length := by
    rw [hY, length_ladder]
  have hPos : 0 < samples.length :=
    List.length_pos_of_ne_nil hSome
  have hCounts (threshold : Binary64) :
      countUpTo cdf.x threshold =
        countUpTo samples threshold :=
    hPerm.countP_eq _
  have hStep {place : Nat} (hPlace : place < samples.length) :
      cdf.y[place]? =
        some
          (Binary64.ofNat (place + 1) /
            Binary64.ofNat samples.length) := by
    rw [hY, getElem?_ladder hPlace]
  have hStepAt (threshold : Binary64) :=
    stepAt_eq hSorted (hLength.trans hPerm.length_eq.symm)
      threshold
  have hFew (threshold : Binary64) :
      countUpTo samples threshold ≤ samples.length :=
    List.countP_le_length
  have hFound
      {threshold : Binary64}
      {count : Nat}
      (hCount : countUpTo samples threshold = count + 1) :
      cdf.stepAt threshold =
        Binary64.ofNat (count + 1) /
          Binary64.ofNat samples.length := by
    have hPlace : count < samples.length := by
      have hLe := hFew threshold
      omega
    rw [hStepAt, hCounts, hCount]
    dsimp only
    rw [List.getD_eq_getElem?_getD, hStep hPlace,
      Option.getD_some]
  constructor
  case perm => exact hPerm
  case sorted => exact hSorted
  case length_y => exact hLength
  case steps =>
    intro place hPlace
    exact ⟨_, hStep hPlace, isShare_div hPos hPlace hWord⟩
  case last =>
    rw [List.getLast?_eq_getElem?, hLength,
      hStep (Nat.sub_lt hPos Nat.one_pos),
      Nat.sub_add_cancel hPos, ofNat_div_self hPos hWord]
  case increasing =>
    intro hFits
    rw [hY]
    exact pairwise_ladder hFits
  case counts => exact hCounts
  case front =>
    intro threshold
    rw [← hCounts]
    exact
      filter_eq_take_countP
        (pairwise_totalLe hSorted threshold)
  case stepAt_none =>
    intro threshold hNone
    rw [hStepAt, hCounts, hNone]
  case stepAt_some =>
    intro threshold count hCount
    have hLe := hFew threshold
    rw [hFound hCount]
    exact hStep (by omega)
  case stepAt_share =>
    intro threshold
    cases hCount : countUpTo samples threshold with
    | zero =>
        rw [hStepAt, hCounts, hCount]
        exact isShare_zero hWord
    | succ count =>
        have hLe := hFew threshold
        rw [hFound hCount]
        exact isShare_div hPos (by omega) hWord

/- Samples with ties, both zeros, infinities and a NaN. -/
def mixedSamples : List Binary64 :=
  [ .ofNat 2, .zero false, .nan false, .infinity true,
    .ofNat 2, .zero true, .infinity false ]

/- One more than `2 ^ 53` is rounded to `2 ^ 53`. -/
theorem ofNat_succ_twoTo :
    Binary64.ofNat (twoTo 53 + 1) =
      Binary64.ofNat (twoTo 53) := by
  decide +kernel

/- All but two of so many samples get the share of all but
   one of `2 ^ 53`, and this is off by more than half a
   step. -/
theorem not_isRoundingOf_div :
    ¬ (Binary64.ofNat (twoTo 53 - 1) /
        Binary64.ofNat (twoTo 53 + 1)).IsRoundingOf
      ((twoTo 53 - 1 : ℕ) / (twoTo 53 + 1 : ℕ)) := by
  have hLe : twoTo 53 - 1 ≤ twoTo 53 := Nat.sub_le _ 1
  have hWord : twoTo 53 < twoTo 64 := by decide
  have hShare :=
    (isShare_div (twoTo_pos 53) hLe hWord).exact
      (Nat.le_refl (twoTo 53))
  rcases Binary64.exists_toRat_eq_div hLe with
    ⟨y, hFinite, hExact⟩
  have hValue := hShare.toRat_eq hFinite hExact
  have hRange :
      (0 : ℚ) ≤ (twoTo 53 - 1 : ℕ) / (twoTo 53 + 1 : ℕ) ∧
        ((twoTo 53 - 1 : ℕ) / (twoTo 53 + 1 : ℕ) : ℚ) ≤ 1 := by
    norm_num [twoTo]
  rw [ofNat_succ_twoTo]
  intro hRounding
  have hNear := hRounding.abs_sub_le hRange.1 hRange.2
  rw [hValue, abs_le] at hNear
  norm_num [twoTo] at hNear

/- Samples that are all zero. -/
def overfull : List Binary64 :=
  List.replicate (twoTo 53 + 1) (.zero false)

theorem length_overfull : overfull.length = twoTo 53 + 1 := by
  rw [overfull, List.length_replicate]

end Cdf

end LatencySweep
