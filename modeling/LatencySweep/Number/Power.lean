/-
  Powers of two and of ten.

  Key definitions include:
    * `twoTo`
    * `tenTo`
-/

namespace LatencySweep

/- A power of two. -/
def twoTo (n : Nat) : Nat :=
  Nat.pow 2 n

/- A power of ten. -/
def tenTo (n : Nat) : Nat :=
  Nat.pow 10 n

theorem twoTo_succ (n : Nat) : twoTo (n + 1) = twoTo n * 2 :=
  rfl

theorem tenTo_succ (n : Nat) : tenTo (n + 1) = tenTo n * 10 :=
  rfl

theorem twoTo_pos (n : Nat) : 0 < twoTo n := by
  induction n with
  | zero => decide
  | succ n ih =>
      rw [twoTo_succ]
      omega

theorem tenTo_pos (n : Nat) : 0 < tenTo n := by
  induction n with
  | zero => decide
  | succ n ih =>
      rw [tenTo_succ]
      omega

end LatencySweep
