import LatencySweep.Number.Power
import LatencySweep.Sweep.Pool
import Mathlib.Data.List.Basic

/-
  The tuples of a grid, by their numbers.

  Every number below the size of a grid has a tuple, which
  carries that number. Reports on all tuples, in whatever
  order they come, are therefore put into one order only.
  The size is the number of choices of one value per axis,
  but for whole turns of the word that holds it.

  Main declarations:
    * `Grid.choices`
    * `Grid.size_eq_mod`
    * `Grid.size_eq_choices`
    * `Grid.exists_get?`
    * `Grid.map_index_tuples`
    * `Grid.nodup_tuples`
    * `map_tuple_inGridOrder`
-/

namespace LatencySweep

------------------------------------------------------------
-- Numbers and Tuples
------------------------------------------------------------

namespace Grid

/- The number of choices of one value per axis. -/
def choices (grid : Grid) : Nat :=
  (grid.axes.map Axis.size).foldr (· * ·) 1

@[simp] theorem choices_cons
    (axis : Axis)
    (axes : List Axis) :
    (⟨axis :: axes⟩ : Grid).choices =
      axis.size * (⟨axes⟩ : Grid).choices := rfl

/- Words count up to whole turns, whatever they hold in
   between. -/
theorem toNat_foldl_words
    (axes : List Axis)
    (count : UInt64) :
    (axes.foldl
        (fun count axis => count * UInt64.ofNat axis.size)
        count).toNat =
      count.toNat * (⟨axes⟩ : Grid).choices % twoTo 64 := by
  induction axes generalizing count with
  | nil =>
      rw [List.foldl_nil]
      have hLess : count.toNat < twoTo 64 := count.toNat_lt
      simp only [choices, List.map_nil, List.foldr_nil,
        Nat.mul_one, Nat.mod_eq_of_lt hLess]
  | cons axis axes ih =>
      rw [List.foldl_cons, ih, UInt64.toNat_mul,
        UInt64.toNat_ofNat', choices_cons, ← Nat.mul_assoc]
      change
        count.toNat * (axis.size % twoTo 64) % twoTo 64 *
            _ % _ = _
      rw [Nat.mul_mod_mod, Nat.mod_mul_mod]

theorem size_eq_mod (grid : Grid) :
    grid.size = grid.choices % twoTo 64 := by
  have hWords := toNat_foldl_words grid.axes 1
  rw [size, hWords]
  exact congrArg (· % twoTo 64) (Nat.one_mul _)

/- Choices that a word can count are all counted. -/
theorem size_eq_choices
    {grid : Grid}
    (hFew : grid.choices < twoTo 64) :
    grid.size = grid.choices := by
  rw [size_eq_mod, Nat.mod_eq_of_lt hFew]

theorem size_le_choices (grid : Grid) :
    grid.size ≤ grid.choices := by
  rw [size_eq_mod]
  exact Nat.mod_le _ _

/-
  The digits of a number are positions on the axes, provided
  that no axis is empty. What is left in front of the digits
  does not matter.
-/
theorem exists_bindAll?_digits
    (axes : List Axis)
    (number : Nat)
    (hChoices : 0 < (⟨axes⟩ : Grid).choices) :
    ∃ bindings,
      bindAll? axes
          (digits (axes.map Axis.size) number).1 =
        some bindings := by
  induction axes with
  | nil => exact ⟨[], rfl⟩
  | cons axis axes ih =>
      rw [choices_cons] at hChoices
      have hAxis : 0 < axis.size :=
        Nat.pos_of_mul_pos_right hChoices
      rcases ih (Nat.pos_of_mul_pos_left hChoices) with
        ⟨others, hOthers⟩
      let position :=
        (digits (axes.map Axis.size) number).2 % axis.size
      have hPosition : position < axis.values.length :=
        Nat.mod_lt _ hAxis
      refine
        ⟨axis.bind axis.values[position] :: others, ?_⟩
      simp only [List.map_cons, digits, bindAll?, hOthers]
      have hBinding :
          axis.binding? position =
            some (axis.bind axis.values[position]) := by
        simp [Axis.binding?, hPosition]
      rw [hBinding]

/- Every number below the size has a tuple. -/
theorem exists_get?
    (grid : Grid)
    {index : Nat}
    (hIndex : index < grid.size) :
    ∃ tuple, grid.get? index = some tuple := by
  have hChoices : 0 < grid.choices :=
    Nat.zero_lt_of_lt
      (Nat.lt_of_lt_of_le hIndex grid.size_le_choices)
  rcases exists_bindAll?_digits grid.axes index hChoices with
    ⟨bindings, hBindings⟩
  refine ⟨{ index, bindings }, ?_⟩
  simp only [get?, positions, if_pos hIndex, hBindings,
    Option.map_some]

/- A tuple carries the number that it is looked up by. -/
theorem index_of_get?
    {grid : Grid}
    {index : Nat}
    {tuple : Tuple}
    (hTuple : grid.get? index = some tuple) :
    tuple.index = index := by
  unfold get? at hTuple
  split at hTuple
  · rcases Option.map_eq_some_iff.mp hTuple with
      ⟨bindings, _, rfl⟩
    rfl
  · cases hTuple

/- Tuples are numbered in the order in which they come. -/
theorem map_index_tuples (grid : Grid) :
    grid.tuples.map Tuple.index = List.range grid.size := by
  have hNumbers :
      ∀ index ∈ List.range grid.size,
        (grid.get? index).map Tuple.index = some index := by
    intro index hIndex
    rcases grid.exists_get? (List.mem_range.mp hIndex) with
      ⟨tuple, hTuple⟩
    simp [hTuple, index_of_get? hTuple]
  calc
    grid.tuples.map Tuple.index
      = (List.range grid.size).filterMap fun index =>
          (grid.get? index).map Tuple.index := by
        rw [tuples, List.map_filterMap]
    _ = (List.range grid.size).filterMap some :=
        List.filterMap_congr hNumbers
    _ = List.range grid.size := List.filterMap_some

@[simp] theorem length_tuples (grid : Grid) :
    grid.tuples.length = grid.size := by
  have hLength :=
    congrArg List.length grid.map_index_tuples
  simpa using hLength

/- The tuple at a place has the number of the place. -/
theorem index_of_getElem?_tuples
    {grid : Grid}
    {place : Nat}
    {tuple : Tuple}
    (hTuple : grid.tuples[place]? = some tuple) :
    tuple.index = place := by
  have hPlace : place < grid.size := by
    have hLength := (List.getElem?_eq_some_iff.mp hTuple).1
    rwa [length_tuples] at hLength
  have hMapped :
      (grid.tuples.map Tuple.index)[place]? =
        some tuple.index := by
    simp [hTuple]
  rw [map_index_tuples, List.getElem?_range hPlace]
    at hMapped
  exact (Option.some.inj hMapped).symm

/- Tuples are known by their numbers. -/
theorem pairwise_tuples (grid : Grid) :
    grid.tuples.Pairwise
      fun a b => a.index < b.index := by
  have hRange : (List.range grid.size).Pairwise (· < ·) :=
    List.pairwise_lt_range
  rw [← map_index_tuples] at hRange
  exact List.pairwise_map.mp hRange

theorem nodup_tuples (grid : Grid) :
    grid.tuples.Nodup := by
  refine grid.pairwise_tuples.imp ?_
  intro a b hLess hSame
  exact Nat.lt_irrefl b.index (hSame ▸ hLess)

/- A tuple of the grid is found under its own number. -/
theorem get?_index
    {grid : Grid}
    {tuple : Tuple}
    (hTuple : tuple ∈ grid.tuples) :
    grid.get? tuple.index = some tuple := by
  rcases List.mem_filterMap.mp hTuple with
    ⟨index, _, hGet⟩
  rw [index_of_get? hGet]
  exact hGet

/- What is found under a number is a tuple of the grid. -/
theorem mem_tuples_of_get?
    {grid : Grid}
    {index : Nat}
    {tuple : Tuple}
    (hTuple : grid.get? index = some tuple) :
    tuple ∈ grid.tuples := by
  apply List.mem_filterMap.mpr
  refine ⟨index, ?_, hTuple⟩
  rw [List.mem_range]
  by_contra hLe
  rw [get?, if_neg hLe] at hTuple
  cases hTuple

theorem index_lt_size
    {grid : Grid}
    {tuple : Tuple}
    (hTuple : tuple ∈ grid.tuples) :
    tuple.index < grid.size := by
  rcases List.mem_iff_getElem?.mp hTuple with
    ⟨place, hPlace⟩
  have hLength := (List.getElem?_eq_some_iff.mp hPlace).1
  rwa [length_tuples, ← index_of_getElem?_tuples hPlace]
    at hLength

theorem eq_of_index_eq
    {grid : Grid}
    {a b : Tuple}
    (hA : a ∈ grid.tuples)
    (hB : b ∈ grid.tuples)
    (hIndex : a.index = b.index) :
    a = b := by
  have hGet := get?_index hA
  rw [hIndex, get?_index hB] at hGet
  exact (Option.some.inj hGet).symm

end Grid

------------------------------------------------------------
-- Reports in Grid Order
------------------------------------------------------------

theorem inGridOrder_perm (reports : List RunReport) :
    (inGridOrder reports).Perm reports :=
  List.mergeSort_perm reports _

theorem pairwise_inGridOrder (reports : List RunReport) :
    (inGridOrder reports).Pairwise
      fun a b => a.tuple.index ≤ b.tuple.index := by
  let precedes (a b : RunReport) : Bool :=
    decide (a.tuple.index ≤ b.tuple.index)
  have hTrans (a b c : RunReport)
      (hAB : precedes a b) (hBC : precedes b c) :
      precedes a c :=
    decide_eq_true
      (Nat.le_trans (of_decide_eq_true hAB)
        (of_decide_eq_true hBC))
  have hTotal (a b : RunReport) :
      precedes a b || precedes b a := by
    simpa [precedes] using
      Nat.le_total a.tuple.index b.tuple.index
  have hSorted :=
    List.pairwise_mergeSort hTrans hTotal reports
  refine hSorted.imp ?_
  intro a b hLe
  exact of_decide_eq_true hLe

/-
  If there is one report on every tuple, the order in which
  they were received is forgotten.
-/
theorem map_tuple_inGridOrder
    {grid : Grid}
    {reports : List RunReport}
    (hReports :
      (reports.map RunReport.tuple).Perm grid.tuples) :
    (inGridOrder reports).map RunReport.tuple =
      grid.tuples := by
  have hPerm :
      ((inGridOrder reports).map RunReport.tuple).Perm
        grid.tuples :=
    ((inGridOrder_perm reports).map _).trans hReports
  apply @List.Perm.eq_of_pairwise Tuple
    fun a b => a.index ≤ b.index
  · intro a b hA hB hAB hBA
    exact Grid.eq_of_index_eq (hPerm.subset hA) hB
      (Nat.le_antisymm hAB hBA)
  · exact List.pairwise_map.mpr
      (pairwise_inGridOrder reports)
  · exact grid.pairwise_tuples.imp Nat.le_of_lt
  · exact hPerm

end LatencySweep
