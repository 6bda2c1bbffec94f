import LatencySweep.Cdf.Basic
import Mathlib.Data.List.Perm.Basic

/-
  The distribution of a sample.

  The total order of floats leaves no choice of how to sort,
  not even between the zeros. So the order in which samples
  are given does not matter for their distribution.

  Main declarations:
    * `Cdf.sorted_eq_of_perm`
    * `Cdf.ofSamples?_eq_of_perm`
    * `Cdf.ofSamples?_eq_some_iff`
    * `Cdf.exists_ofSamples?`
-/

namespace LatencySweep

namespace Cdf

variable {samples others : List Binary64}

/- The total order puts the same samples into one order. -/
theorem sorted_eq_of_perm
    (hPerm : samples.Perm others) :
    sorted samples = sorted others := by
  have hSorted :
      (sorted samples).Perm (sorted others) :=
    ((sorted_perm samples).trans hPerm).trans
      (sorted_perm others).symm
  apply hSorted.eq_of_pairwise _ (pairwise_sorted samples)
    (pairwise_sorted others)
  intro a b _ _ hLe hGe
  simp only [Binary64.totalLe, decide_eq_true_eq] at hLe hGe
  exact Binary64.orderKey_inj (Int.le_antisymm hLe hGe)

/- A distribution does not depend on the order in which its
   samples are given. -/
theorem ofSamples?_eq_of_perm
    (hPerm : samples.Perm others) :
    ofSamples? samples = ofSamples? others := by
  have hNil : samples = [] ↔ others = [] := by
    constructor
    · rintro rfl
      exact hPerm.nil_eq.symm
    · rintro rfl
      exact hPerm.eq_nil
  unfold ofSamples?
  by_cases hNone : samples = []
  · rw [dif_pos hNone, dif_pos (hNil.mp hNone)]
  · rw [dif_neg hNone, dif_neg (fun h => hNone (hNil.mpr h))]
    simp only [sorted_eq_of_perm hPerm, hPerm.length_eq]

/- What a distribution says about its samples. -/
theorem ofSamples?_eq_some_iff
    {cdf : Cdf} :
    ofSamples? samples = some cdf ↔
      samples ≠ [] ∧ cdf.x = sorted samples ∧
        cdf.y = ladder samples.length := by
  unfold ofSamples?
  split
  next hNil => simp [hNil]
  next hSome =>
    constructor
    · intro hCdf
      cases hCdf
      exact ⟨hSome, rfl, rfl⟩
    · rintro ⟨-, hX, hY⟩
      rcases cdf with ⟨x, y, hNe⟩
      cases hX
      cases hY
      rfl

/- All samples but none have a distribution. -/
theorem exists_ofSamples?
    (hSome : samples ≠ []) :
    ∃ cdf,
      ofSamples? samples = some cdf ∧
        cdf.x = sorted samples ∧
          cdf.y = ladder samples.length := by
  let cdf : Cdf :=
    { x := sorted samples
      y := ladder samples.length
      x_ne_nil := sorted_ne_nil hSome }
  refine ⟨cdf, ?_, rfl, rfl⟩
  exact ofSamples?_eq_some_iff.mpr ⟨hSome, rfl, rfl⟩

end Cdf

end LatencySweep
