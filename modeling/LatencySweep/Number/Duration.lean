import LatencySweep.Number.Rounding
import LatencySweep.Number.Digits

/-
  Durations in whole nanoseconds.

  A duration is shown with two places in the largest unit
  of which it holds at least one. Rounding does not change
  the unit.

  Key definitions include:
    * `Duration`
    * `Duration.unit`
    * `Duration.toText`
-/

namespace LatencySweep

/- A span of time. -/
structure Duration where
  nanoseconds : Nat
  deriving DecidableEq

namespace Duration

/- The unit for display and the nanoseconds in it. -/
def unit (d : Duration) : String × Nat :=
  if tenTo 9 ≤ d.nanoseconds then ("s", tenTo 9)
  else if tenTo 6 ≤ d.nanoseconds then ("ms", tenTo 6)
  else if tenTo 3 ≤ d.nanoseconds then ("µs", tenTo 3)
  else ("ns", 1)

/- The duration with two places and its unit. -/
def toText (d : Duration) : String :=
  let (name, size) := d.unit
  let hundredths := roundHalfEven (d.nanoseconds * 100) size
  let fraction := decimalDigits (hundredths % 100)
  let padded :=
    if fraction.length < 2 then '0' :: fraction else fraction
  toString (hundredths / 100) ++ "." ++
    String.ofList padded ++ name

instance : ToString Duration := ⟨toText⟩

example : (⟨1005⟩ : Duration).toText = "1.00µs" := by
  decide +kernel
example : (⟨999995⟩ : Duration).toText = "1000.00µs" := by
  decide +kernel
example : (⟨1500000000⟩ : Duration).toText = "1.50s" := by
  decide +kernel

end Duration

end LatencySweep
