import LatencySweep.Number.Power
import LatencySweep.Number.Rounding

/-
  Binary floating point with 64 bits.

  A number is its sign and its magnitude, the lower 63 bits
  read as a natural number. Magnitudes grow with the
  absolute value, so the order of the format is the order
  of signed magnitudes. Every finite number is a whole
  count of units of `2 ^ -1074`.

  Rounding is done in one place, `roundedMagnitude`, on an
  exact quotient of naturals.

  Key definitions include:
    * `Binary64`
    * `Binary64.IsFinite`
    * `Binary64.units`
    * `Binary64.totalLe`
    * `Binary64.sameNumber`
    * `Binary64.roundedMagnitude`
    * `Binary64.ofRatio`
    * `Binary64.mul`
    * `Binary64.div`
-/

namespace LatencySweep

------------------------------------------------------------
-- Representation
------------------------------------------------------------

/-
  A float as sign bit and magnitude. Magnitudes above the
  one of infinity are the NaNs.
-/
structure Binary64 where
  negative : Bool
  magnitude : Nat
  magnitude_lt : magnitude < twoTo 63
  deriving DecidableEq

namespace Binary64

/- The magnitude of infinity. -/
def infinityMagnitude : Nat := 2047 * twoTo 52

/- The magnitude of the NaN that operations produce. -/
def nanMagnitude : Nat := 2047 * twoTo 52 + twoTo 51

/- Zero of the given sign. -/
def zero (negative : Bool) : Binary64 :=
  ⟨negative, 0, by decide⟩

/- Infinity of the given sign. -/
def infinity (negative : Bool) : Binary64 :=
  ⟨negative, infinityMagnitude, by decide⟩

/- The NaN of the given sign. -/
def nan (negative : Bool) : Binary64 :=
  ⟨negative, nanMagnitude, by decide⟩

/- Neither an infinity nor a NaN. -/
def IsFinite (x : Binary64) : Prop :=
  x.magnitude < infinityMagnitude

instance (x : Binary64) : Decidable x.IsFinite := by
  unfold IsFinite
  infer_instance

/- Not a number. -/
def IsNaN (x : Binary64) : Prop :=
  infinityMagnitude < x.magnitude

instance (x : Binary64) : Decidable x.IsNaN := by
  unfold IsNaN
  infer_instance

/- Zero of either sign. -/
def IsZero (x : Binary64) : Prop :=
  x.magnitude = 0

instance (x : Binary64) : Decidable x.IsZero := by
  unfold IsZero
  infer_instance

/- The same magnitude with the other sign. -/
def neg (x : Binary64) : Binary64 :=
  { x with negative := !x.negative }

------------------------------------------------------------
-- Units
------------------------------------------------------------

/-
  The value of a finite magnitude in units of `2 ^ -1074`.
  The upper bits shift the lower 52 bits and, from the
  second block on, a leading one in front of them.
-/
def unitsOf (magnitude : Nat) : Nat :=
  let exponent := magnitude / twoTo 52
  let fraction := magnitude % twoTo 52
  if exponent = 0 then fraction
  else (twoTo 52 + fraction) * twoTo (exponent - 1)

/- The absolute value in units of `2 ^ -1074`. -/
def units (x : Binary64) : Nat :=
  unitsOf x.magnitude

/- The number of units in one. -/
def unitsPerOne : Nat := twoTo 1074

------------------------------------------------------------
-- Orders
------------------------------------------------------------

/-
  The place of a float in the total order: the negative
  ones by falling magnitude, then the positive ones. So
  `-0` stands before `0` and the NaNs stand at both ends.
-/
def orderKey (x : Binary64) : Int :=
  if x.negative then -(x.magnitude : Int) - 1
  else x.magnitude

/- The total order of the format. -/
def totalLe (x y : Binary64) : Bool :=
  x.orderKey ≤ y.orderKey

/- Equality as numbers: the zeros agree and no NaN does. -/
def sameNumber (x y : Binary64) : Bool :=
  decide (¬ x.IsNaN) && decide (¬ y.IsNaN) &&
    (decide (x = y) || (decide x.IsZero && decide y.IsZero))

/- The order key determines the float. -/
theorem orderKey_inj {x y : Binary64}
    (h : x.orderKey = y.orderKey) :
    x = y := by
  obtain ⟨xNeg, xMag, xLt⟩ := x
  obtain ⟨yNeg, yMag, yLt⟩ := y
  cases xNeg <;> cases yNeg <;>
    simp only [orderKey, if_true, Bool.false_eq_true,
      if_false] at h
  · have : xMag = yMag := by omega
    subst this
    rfl
  · omega
  · omega
  · have : xMag = yMag := by omega
    subst this
    rfl

------------------------------------------------------------
-- Rounding
------------------------------------------------------------

/-
  The magnitude nearest to `num / den` units. With `s` bits
  too many for the format, the quotient is rounded to a
  multiple of `2 ^ s`; a carry out of the rounded digits
  lands in the next block by itself.
-/
def roundedMagnitude (num den : Nat) : Nat :=
  let whole := num / den
  let shift :=
    if whole < twoTo 53 then 0 else whole.log2 - 52
  min infinityMagnitude
    (shift * twoTo 52 +
      roundHalfEven num (den * twoTo shift))

theorem roundedMagnitude_lt (num den : Nat) :
    roundedMagnitude num den < twoTo 63 :=
  Nat.lt_of_le_of_lt (Nat.min_le_left _ _) (by decide)

/- The float nearest to `num / den` units. -/
def ofUnits
    (negative : Bool)
    (num den : Nat) : Binary64 :=
  ⟨negative, roundedMagnitude num den,
    roundedMagnitude_lt num den⟩

/- The float nearest to `num / den`. -/
def ofRatio
    (negative : Bool)
    (num den : Nat) : Binary64 :=
  ofUnits negative (num * unitsPerOne) den

/- The float nearest to a natural number. -/
def ofNat (n : Nat) : Binary64 :=
  ofRatio false n 1

------------------------------------------------------------
-- Arithmetic
------------------------------------------------------------

/- The rounded product. -/
def mul (x y : Binary64) : Binary64 :=
  let negative := x.negative != y.negative
  if x.IsNaN then x
  else if y.IsNaN then y
  else if x.IsFinite ∧ y.IsFinite then
    ofUnits negative (x.units * y.units) unitsPerOne
  else if x.IsZero ∨ y.IsZero then nan false
  else infinity negative

/- The rounded quotient. -/
def div (x y : Binary64) : Binary64 :=
  let negative := x.negative != y.negative
  if x.IsNaN then x
  else if y.IsNaN then y
  else if x.IsFinite then
    if y.IsZero then
      if x.IsZero then nan false else infinity negative
    else if y.IsFinite then
      ofUnits negative (x.units * unitsPerOne) y.units
    else zero negative
  else if y.IsFinite then infinity negative
  else nan false

instance : Mul Binary64 := ⟨mul⟩

instance : Div Binary64 := ⟨div⟩

example : (ofNat 1).magnitude = 1023 * twoTo 52 := by
  decide +kernel
example :
    (ofNat 1 / ofNat 3).magnitude = 0x3FD5555555555555 := by
  decide +kernel
example :
    (ofUnits true 1 2).magnitude = 0 := by
  decide +kernel

end Binary64

end LatencySweep
