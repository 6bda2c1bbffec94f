import LatencySweep.Number.Binary64
import LatencySweep.Number.Digits

/-
  The shortest decimal that reads back to a float.

  The reals that round to a float form an interval around
  it, with its ends if the magnitude is even. Among the
  decimals of the fewest digits in this interval, the
  nearest to the float is taken; of two equally near ones,
  the one that the caller prefers.

  Key definitions include:
    * `Decimal`
    * `Tie`
    * `Binary64.readsBack`
    * `Binary64.shortest`
-/

namespace LatencySweep

/- The number `coefficient * 10 ^ exponent`. -/
structure Decimal where
  coefficient : Nat
  exponent : Int
  deriving DecidableEq

namespace Binary64

------------------------------------------------------------
-- Decimal Grids
------------------------------------------------------------

/-
  A power of ten as a quotient, so that the decimals with
  one exponent form a grid of whole coefficients.
-/
def tenPowNum (exponent : Int) : Nat :=
  tenTo exponent.toNat

def tenPowDen (exponent : Int) : Nat :=
  tenTo (-exponent).toNat

/-
  The exponent of the leading digit of a positive number of
  units. The smallest one is above `10 ^ -324`, so scaled
  by `10 ^ 340` every number has a whole part.
-/
def leadingExponent (units : Nat) : Int :=
  ((decimalDigits
    (units * tenTo 340 / unitsPerOne)).length : Int) - 341

------------------------------------------------------------
-- Reading Back
------------------------------------------------------------

/-
  The decimal lies in the interval of the magnitude, that
  is between the midpoints to both neighbours.
-/
def readsBack (magnitude : Nat) (d : Decimal) : Bool :=
  let twice :=
    2 * d.coefficient * unitsPerOne * tenPowNum d.exponent
  let den := tenPowDen d.exponent
  let value := unitsOf magnitude
  let low := (unitsOf (magnitude - 1) + value) * den
  let high := (value + unitsOf (magnitude + 1)) * den
  if magnitude % 2 = 0 then
    decide (low ≤ twice) && decide (twice ≤ high)
  else decide (low < twice) && decide (twice < high)

------------------------------------------------------------
-- Shortest Decimal
------------------------------------------------------------

/- Which of two equally near decimals is taken: the upper
   one, or the one with an even last digit. -/
inductive Tie where
  | upper
  | even
  deriving DecidableEq

/- Of two neighbours on a grid, the lower one is taken. The
   remainder of the value above it says how near it is. -/
def Tie.takesLower
    (tie : Tie)
    (coefficient remainder spacing : Nat) : Bool :=
  match tie with
  | .upper => 2 * remainder < spacing
  | .even =>
      2 * remainder < spacing ||
        2 * remainder = spacing && coefficient % 2 = 0

/- The best decimal on one grid that reads back. -/
def onGrid?
    (tie : Tie)
    (magnitude : Nat)
    (exponent : Int) : Option Decimal :=
  let num := unitsOf magnitude * tenPowDen exponent
  let den := unitsPerOne * tenPowNum exponent
  let below : Decimal := ⟨num / den, exponent⟩
  let above : Decimal := ⟨num / den + 1, exponent⟩
  match readsBack magnitude below,
      readsBack magnitude above with
  | true, true =>
      if tie.takesLower (num / den) (num % den) den then
        some below
      else some above
  | true, false => some below
  | false, true => some above
  | false, false => none

/- The shortest decimal of a positive finite magnitude. -/
def shortest (tie : Tie) (magnitude : Nat) : Decimal :=
  let leading := leadingExponent (unitsOf magnitude)
  let grids := (List.range 17).map fun (n : Nat) =>
    leading - (n : Int)
  (grids.findSome? (onGrid? tie magnitude)).getD
    ⟨unitsOf magnitude, -1074⟩

example :
    shortest .upper (ofRatio false 3 10).magnitude =
      ⟨3, -1⟩ := by
  decide +kernel
example : shortest .upper 1 = ⟨5, -324⟩ := by
  decide +kernel
example :
    let half := (ofRatio false 2289672487110641 4).magnitude
    shortest .upper half = ⟨5724181217776603, -1⟩ ∧
      shortest .even half = ⟨5724181217776602, -1⟩ := by
  decide +kernel

end Binary64

end LatencySweep
