import LatencySweep.Number.Binary64

/-
  Empirical distribution functions.

  The function of a sample is a ladder: its values in the
  total order of floats, and for the value at place `k` of
  `n` the step `k / n`.

  A `Cdf` pairs values with steps. Those made by
  `ofSamples?` are ladders; one that was read from a file
  holds whatever the file says.

  Key definitions include:
    * `Cdf`
    * `Cdf.ladder`
    * `Cdf.ofSamples?`
    * `Cdf.min`
    * `Cdf.max`
    * `Cdf.sameNumbers`
-/

namespace LatencySweep

/- At least one value, and the steps at the values. -/
structure Cdf where
  x : List Binary64
  y : List Binary64
  x_ne_nil : x ≠ []
  deriving DecidableEq

namespace Cdf

------------------------------------------------------------
-- Samples
------------------------------------------------------------

/- The steps `1 / n`, `2 / n`, up to one. -/
def ladder (n : Nat) : List Binary64 :=
  (List.range n).map fun k =>
    Binary64.ofNat (k + 1) / Binary64.ofNat n

theorem length_ladder (n : Nat) :
    (ladder n).length = n := by
  simp [ladder]

/- Samples from the least to the greatest. -/
def sorted (samples : List Binary64) : List Binary64 :=
  samples.mergeSort Binary64.totalLe

theorem sorted_perm (samples : List Binary64) :
    (sorted samples).Perm samples :=
  List.mergeSort_perm ..

/- Each sample comes before the ones that are not less. -/
theorem pairwise_sorted (samples : List Binary64) :
    (sorted samples).Pairwise
      (fun a b => a.totalLe b = true) := by
  apply List.pairwise_mergeSort
  · intro a b c hab hbc
    simp only [Binary64.totalLe, decide_eq_true_eq] at *
    omega
  · intro a b
    simp only [Binary64.totalLe, Bool.or_eq_true,
      decide_eq_true_eq]
    omega

theorem sorted_ne_nil
    {samples : List Binary64}
    (h : samples ≠ []) :
    sorted samples ≠ [] := fun hNil =>
  h (List.Perm.nil_eq (hNil ▸ sorted_perm samples)).symm

/- The distribution of a sample, if there is one. -/
def ofSamples? (samples : List Binary64) : Option Cdf :=
  if h : samples = [] then none
  else
    some
      { x := sorted samples
        y := ladder samples.length
        x_ne_nil := sorted_ne_nil h }

theorem ofSamples?_eq_none_iff
    {samples : List Binary64} :
    ofSamples? samples = none ↔ samples = [] := by
  unfold ofSamples?
  split <;> simp_all

------------------------------------------------------------
-- Views
------------------------------------------------------------

/- How many values there are. -/
def size (cdf : Cdf) : Nat :=
  cdf.x.length

/- The first value. -/
def min (cdf : Cdf) : Binary64 :=
  cdf.x.head cdf.x_ne_nil

/- The last value. -/
def max (cdf : Cdf) : Binary64 :=
  cdf.x.getLast cdf.x_ne_nil

/- Two rows hold the same numbers. -/
def sameRow (xs ys : List Binary64) : Bool :=
  xs.length = ys.length &&
    (xs.zip ys).all fun p => p.1.sameNumber p.2

/- Two distributions hold the same numbers. -/
def sameNumbers (first second : Cdf) : Bool :=
  sameRow first.x second.x && sameRow first.y second.y

example :
    ladder 2 =
      [Binary64.ofRatio false 1 2, Binary64.ofNat 1] := by
  decide +kernel

end Cdf

end LatencySweep
