/-
  Rounding a quotient of naturals to a whole number.

  Key definitions include:
    * `roundHalfEven`
-/

namespace LatencySweep

/-
  The whole number nearest to a quotient. A quotient half
  way between two of them goes to the even one.
-/
def roundHalfEven (num den : Nat) : Nat :=
  let quotient := num / den
  let twice := 2 * (num % den)
  if twice < den then quotient
  else if den < twice then quotient + 1
  else quotient + quotient % 2

example : roundHalfEven 5 2 = 2 := by decide
example : roundHalfEven 7 2 = 4 := by decide
example : roundHalfEven 8 3 = 3 := by decide

/- The nearest number is the floor or the one above it. -/
theorem div_le_roundHalfEven (num den : Nat) :
    num / den ≤ roundHalfEven num den := by
  unfold roundHalfEven
  dsimp only
  split
  · exact Nat.le_refl _
  · split <;> omega

theorem roundHalfEven_le_div_succ (num den : Nat) :
    roundHalfEven num den ≤ num / den + 1 := by
  unfold roundHalfEven
  dsimp only
  split
  · omega
  · split <;> omega

end LatencySweep
