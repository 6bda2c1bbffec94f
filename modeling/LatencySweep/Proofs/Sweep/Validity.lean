import LatencySweep.Proofs.Grid.Product
import LatencySweep.Proofs.Text.Words
import LatencySweep.Sweep.Validation

/-
  What a well-formed sweep is known to have.

  It has axes and workers, its values hold no separator and
  no blank, and no two of its tuples have the same directory
  name.

  Main declarations:
    * `AxisValue.isForbidden_of_mem`
    * `Sweep.IsValid.axes_ne_nil`
    * `Sweep.IsValid.concurrency_pos`
    * `Sweep.IsValid.values_valid`
    * `Sweep.IsValid.eq_of_directoryName_eq`
    * `Sweep.IsValid.eq_of_bindings_eq`
    * `Grid.bindings_of_mem`
-/

namespace LatencySweep

------------------------------------------------------------
-- Values
------------------------------------------------------------

/- Digits are neither blank nor separators. -/
theorem isForbidden_of_isDigit
    {c : Char}
    (hDigit : c.isDigit = true) :
    isForbidden c = false := by
  have hRange : 48 ≤ c.toNat ∧ c.toNat ≤ 57 :=
    Char.isDigit_iff_toNat.mp hDigit
  have hNot (other : Char) (hOther : other.isDigit = false) :
      c ≠ other := by
    rintro rfl
    rw [hDigit] at hOther
    cases hOther
  have hOutside :
      ∀ range ∈ blankRanges, range.2 < 48 ∨ 57 < range.1 := by
    decide
  have hBlank : isBlank c = false := by
    rw [isBlank, List.any_eq_false]
    intro range hMember
    have hApart := hOutside range hMember
    simp only [Bool.and_eq_true, decide_eq_true_eq]
    omega
  have hSlash := hNot '/' (by decide)
  have hBackslash := hNot '\\' (by decide)
  simp [isForbidden, hBlank, hSlash, hBackslash]

theorem isForbidden_of_mem_repr
    {n : Nat}
    {c : Char}
    (hMember : c ∈ n.repr.toList) :
    isForbidden c = false := by
  rw [Nat.toList_repr] at hMember
  exact
    isForbidden_of_isDigit
      (Nat.isDigit_of_mem_toDigits (by decide) (by decide)
        hMember)

namespace AxisValue

/- An allowed value is written without characters that are
   not allowed, whatever its kind. -/
theorem isForbidden_of_mem
    {value : AxisValue}
    (hValid : value.isInvalid = false) :
    ∀ c ∈ value.toText.toList, isForbidden c = false := by
  cases value with
  | bool b =>
      have hLetters :
          (toString b).toList.any isForbidden = false := by
        cases b <;> rfl
      intro c hMember
      exact
        Bool.eq_false_iff.mpr
          (List.any_eq_false.mp hLetters c hMember)
  | integer n =>
      cases n with
      | ofNat n =>
          intro c hMember
          exact isForbidden_of_mem_repr (n := n) hMember
      | negSucc n =>
          have hText :
              (AxisValue.integer (.negSucc n)).toText =
                "-" ++ (n + 1).repr := rfl
          intro c hMember
          rw [hText, String.toList_append, List.mem_append]
            at hMember
          rcases hMember with hSign | hDigit
          · rw [List.mem_singleton.mp hSign]
            decide
          · exact isForbidden_of_mem_repr hDigit
  | text t =>
      simp only [isInvalid, Bool.or_eq_false_iff] at hValid
      intro c hMember
      exact
        Bool.eq_false_iff.mpr
          (List.any_eq_false.mp hValid.2 c hMember)

/- So it holds no separator and no blank. -/
theorem separator_notMem
    {value : AxisValue}
    (hValid : value.isInvalid = false) :
    '/' ∉ value.toText.toList := by
  intro hMember
  have hNot := isForbidden_of_mem hValid '/' hMember
  exact absurd hNot (by decide)

theorem isBlankFree
    {value : AxisValue}
    (hValid : value.isInvalid = false) :
    IsBlankFree value.toText.toList := by
  intro c hMember
  have hNot := isForbidden_of_mem hValid c hMember
  simp only [isForbidden, Bool.or_eq_false_iff] at hNot
  exact hNot.1.1

end AxisValue

namespace Sweep

variable {sweep : Sweep}

------------------------------------------------------------
-- Defects
------------------------------------------------------------

/- A well-formed sweep has none of the defects. -/
theorem isValid_iff :
    sweep.IsValid ↔
      sweep.axes ≠ [] ∧ sweep.concurrency ≠ 0 ∧
        axesDefect? [] sweep.axes = none ∧
        sweep.collision? = none := by
  unfold IsValid defect?
  by_cases hAxes : sweep.axes = []
  · simp [hAxes]
  · by_cases hWorkers : sweep.concurrency = 0
    · simp [hAxes, hWorkers]
    · cases axesDefect? [] sweep.axes with
      | none => simp [hAxes, hWorkers]
      | some defect => simp [hAxes, hWorkers]

/- Without a defect, all values on the axes are allowed. -/
theorem values_of_axesDefect?
    {earlier axes : List Axis}
    (hNone : axesDefect? earlier axes = none) :
    ∀ axis ∈ axes, ∀ value ∈ axis.values,
      value.isInvalid = false := by
  induction axes generalizing earlier with
  | nil => nofun
  | cons first axes ih =>
      rw [axesDefect?, Option.or_eq_none_iff] at hNone
      intro axis hAxis value hValue
      rcases List.mem_cons.mp hAxis with rfl | hRest
      · have hFirst := hNone.1
        unfold axisDefect? at hFirst
        split at hFirst
        next => cases hFirst
        next =>
          split at hFirst
          next => cases hFirst
          next =>
            rw [Option.map_eq_none_iff,
              List.find?_eq_none] at hFirst
            exact
              Bool.eq_false_iff.mpr (hFirst value hValue)
      · exact ih hNone.2 axis hRest value hValue

/- Whether directories are taken depends on the tuples and
   their names only. -/
theorem collisionFrom?_congr
    {other : Sweep}
    (hGrid : other.grid = sweep.grid)
    (hNames : other.directoryName = sweep.directoryName)
    (seen : List (String × Nat))
    (left index : Nat) :
    other.collisionFrom? seen left index =
      sweep.collisionFrom? seen left index := by
  induction left generalizing seen index with
  | zero => rfl
  | succ left ih =>
      unfold collisionFrom?
      simp only [ih, hGrid, hNames]

theorem collision?_congr
    {other : Sweep}
    (hGrid : other.grid = sweep.grid)
    (hNames : other.directoryName = sweep.directoryName) :
    other.collision? = sweep.collision? := by
  unfold collision?
  rw [collisionFrom?_congr hGrid hNames, hGrid]

/-
  If no directory is found to be taken, the names of the
  tuples from a number on are new, and they differ.
-/
theorem names_of_collisionFrom?
    {seen : List (String × Nat)}
    {left index : Nat}
    (hNone :
      sweep.collisionFrom? seen left index = none)
    (hSize : index + left ≤ sweep.grid.size)
    {i : Nat}
    {a : Tuple}
    (hFrom : index ≤ i)
    (hTo : i < index + left)
    (hA : sweep.grid.get? i = some a) :
    seen.lookup (sweep.directoryName a) = none ∧
      ∀ j b,
        i < j → j < index + left →
          sweep.grid.get? j = some b →
            sweep.directoryName a ≠
              sweep.directoryName b := by
  induction left generalizing seen index i a with
  | zero => omega
  | succ left ih =>
      have hIndex : index < sweep.grid.size := by omega
      rcases sweep.grid.exists_get? hIndex with
        ⟨first, hFirst⟩
      unfold collisionFrom? at hNone
      rw [hFirst] at hNone
      dsimp only at hNone
      split at hNone
      next => cases hNone
      next hNew =>
        have hLater
            {j : Nat}
            {b : Tuple}
            (hAfter : index + 1 ≤ j)
            (hBefore : j < index + 1 + left)
            (hB : sweep.grid.get? j = some b) :=
          ih hNone (by omega) hAfter hBefore hB
        by_cases hSame : i = index
        · subst hSame
          rw [hFirst] at hA
          cases hA
          refine ⟨hNew, ?_⟩
          intro j b hLess hEnd hB hName
          have hUnseen :=
            (hLater hLess (by omega) hB).1
          rw [hName, List.lookup_cons_self] at hUnseen
          cases hUnseen
        · rcases hLater (by omega) (by omega) hA with
            ⟨hUnseen, hOthers⟩
          refine ⟨?_, ?_⟩
          · rw [List.lookup_cons] at hUnseen
            split at hUnseen
            next => cases hUnseen
            next => exact hUnseen
          · intro j b hLess hEnd hB
            exact hOthers j b hLess (by omega) hB

namespace IsValid

variable (hValid : sweep.IsValid)
include hValid

theorem axes_ne_nil : sweep.axes ≠ [] :=
  (isValid_iff.mp hValid).1

theorem concurrency_pos : 0 < sweep.concurrency :=
  Nat.pos_of_ne_zero (isValid_iff.mp hValid).2.1

theorem values_valid :
    ∀ axis ∈ sweep.axes, ∀ value ∈ axis.values,
      value.isInvalid = false :=
  values_of_axesDefect? (isValid_iff.mp hValid).2.2.1

/- Tuples with the same directory name are the same. -/
theorem eq_of_directoryName_eq
    {a b : Tuple}
    (hA : a ∈ sweep.grid.tuples)
    (hB : b ∈ sweep.grid.tuples)
    (hName :
      sweep.directoryName a = sweep.directoryName b) :
    a = b := by
  have hDiffer
      {a b : Tuple}
      (hA : a ∈ sweep.grid.tuples)
      (hB : b ∈ sweep.grid.tuples)
      (hLess : a.index < b.index) :
      sweep.directoryName a ≠ sweep.directoryName b := by
    have hNone := (isValid_iff.mp hValid).2.2.2
    have hEnd := Grid.index_lt_size hB
    have hNames :=
      names_of_collisionFrom? hNone (by omega)
        (Nat.zero_le _) (by omega) (Grid.get?_index hA)
    exact hNames.2 b.index b hLess (by omega)
      (Grid.get?_index hB)
  rcases Nat.lt_trichotomy a.index b.index with
    hLess | hSame | hLess
  · exact absurd hName (hDiffer hA hB hLess)
  · exact Grid.eq_of_index_eq hA hB hSame
  · exact absurd hName.symm (hDiffer hB hA hLess)

/- So are tuples with the same bindings, which are all that
   a name tells of. -/
theorem eq_of_bindings_eq
    {a b : Tuple}
    (hA : a ∈ sweep.grid.tuples)
    (hB : b ∈ sweep.grid.tuples)
    (hBindings : a.bindings = b.bindings) :
    a = b := by
  apply hValid.eq_of_directoryName_eq hA hB
  unfold directoryName Tuple.directoryName
  rw [hBindings]

end IsValid

end Sweep

------------------------------------------------------------
-- Bindings
------------------------------------------------------------

/- A value of the axis is bound to its token. -/
def Binding.IsOf (axis : Axis) (b : Binding) : Prop :=
  b.token = axis.token ∧ b.value ∈ axis.values

namespace Grid

/- Bindings are to values of the axes, in order. -/
theorem bindings_of_mem
    {grid : Grid}
    {tuple : Tuple}
    (hTuple : tuple ∈ grid.tuples) :
    List.Forall₂ Binding.IsOf grid.axes tuple.bindings := by
  have hMember := bindings_mem_product hTuple
  refine (mem_bindingProduct.mp hMember).imp ?_
  rintro axis b ⟨value, hValue, rfl⟩
  exact ⟨rfl, hValue⟩

end Grid

/- A well-formed sweep has something to bind. -/
theorem Sweep.IsValid.bindings_ne_nil
    {sweep : Sweep}
    (hValid : sweep.IsValid)
    {tuple : Tuple}
    (hTuple : tuple ∈ sweep.grid.tuples) :
    tuple.bindings ≠ [] := by
  intro hNone
  have hLength := (Grid.bindings_of_mem hTuple).length_eq
  rw [hNone, List.length_nil, List.length_eq_zero_iff]
    at hLength
  exact hValid.axes_ne_nil hLength

end LatencySweep
