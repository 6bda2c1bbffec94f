import LatencySweep.Cdf.Basic
import LatencySweep.Number.Text
import LatencySweep.Text.Columns
import LatencySweep.Trace.Cohort

/-
  The line that sums up a cohort.

  Key definitions include:
    * `Summary`
    * `Cdf.summary`
    * `Summary.toText`
-/

namespace LatencySweep

/- Size, minimum and maximum of a cohort. -/
structure Summary where
  cohort : Cohort
  size : Nat
  min : Binary64
  max : Binary64
  deriving DecidableEq

/- The summary of a cohort's distribution. -/
def Cdf.summary (cdf : Cdf) (cohort : Cohort) : Summary :=
  { cohort, size := cdf.size, min := cdf.min, max := cdf.max }

namespace Summary

/- How many places the extremes are shown with. -/
def places : Nat := 6

/- The summary as a line. Names fill a column. -/
def toText (s : Summary) : String :=
  padRight 11 s.cohort.name ++ s!" num: {s.size} min: " ++
    s.min.toFixed places ++ " max: " ++ s.max.toFixed places

instance : ToString Summary := ⟨toText⟩

end Summary

end LatencySweep
