import LatencySweep.Proofs.Sweep.FlagBindings

/-
  Every combination of values is swept once.

  The digits of a number are its quotients by the products
  of the bases behind them, so the number of a tuple tells
  at which position of an axis its value stands. Some tuple
  has the values of a combination, and no other one does,
  since the two would share a directory. This takes a word
  that can count the combinations. A sweep with too many of
  them is accepted all the same.

  Main declarations:
    * `Grid.getElem?_digits`
    * `Grid.exists_value_at`
    * `Tuple.HasValues`
    * `Sweep.IsValid.hasValues_iff`
    * `Sweep.NumbersCombinations`
    * `Sweep.SweepsCombinations`
    * `Sweep.IsValid.sweepsCombinations`
    * `Sweep.wide_sweeps_nothing`
-/

namespace LatencySweep

------------------------------------------------------------
-- Positions
------------------------------------------------------------

namespace Grid

/- What is left of a number in front of all its digits. -/
theorem left_digits (bases : List Nat) (number : Nat) :
    (digits bases number).2 = number / bases.prod := by
  induction bases with
  | nil => exact (Nat.div_one number).symm
  | cons base bases ih =>
      calc
        (digits (base :: bases) number).2
          = (digits bases number).2 / base := rfl
        _ = number / bases.prod / base := by rw [ih]
        _ = number / (base :: bases).prod := by
          rw [Nat.div_div_eq_div_mul, Nat.mul_comm,
            List.prod_cons]

/- Each digit is the last one of what is left in front of
   the digits behind it. -/
theorem getElem?_digits
    {bases : List Nat}
    {place base : Nat}
    (number : Nat)
    (hBase : bases[place]? = some base) :
    (digits bases number).1[place]? =
      some
        (number / (bases.drop (place + 1)).prod % base) := by
  induction bases generalizing place with
  | nil => cases hBase
  | cons first bases ih =>
      cases place with
      | zero =>
          cases hBase
          rw [List.drop_one, List.tail_cons, ← left_digits]
          rfl
      | succ place => exact ih hBase

/- The binding to an axis is to its value at the position
   for the axis. -/
theorem getElem?_of_bindAll?
    {axes : List Axis}
    {positions : List Nat}
    {bindings : List Binding}
    {place position : Nat}
    {axis : Axis}
    (hBindings : bindAll? axes positions = some bindings)
    (hAxis : axes[place]? = some axis)
    (hPosition : positions[place]? = some position) :
    ∃ value,
      axis.values[position]? = some value ∧
        bindings[place]? = some (axis.bind value) := by
  induction axes generalizing positions bindings place with
  | nil => cases hAxis
  | cons first axes ih =>
      cases positions with
      | nil => cases hPosition
      | cons start positions =>
          rw [bindAll?] at hBindings
          split at hBindings
          next b others hFirst hOthers =>
            cases hBindings
            cases place with
            | zero =>
                cases hAxis
                cases hPosition
                rcases Option.map_eq_some_iff.mp hFirst with
                  ⟨value, hValue, rfl⟩
                exact ⟨value, hValue, rfl⟩
            | succ place =>
                rw [List.getElem?_cons_succ]
                  at hAxis hPosition ⊢
                exact ih hOthers hAxis hPosition
          next => cases hBindings

/- How many tuples in a row have the same value of an axis:
   all those of the axes behind it. -/
def stride (grid : Grid) (place : Nat) : Nat :=
  ((grid.axes.drop (place + 1)).map Axis.size).prod

/- The number of a tuple tells where its values stand. -/
theorem exists_value_at
    {grid : Grid}
    {index place : Nat}
    {tuple : Tuple}
    {axis : Axis}
    (hTuple : grid.get? index = some tuple)
    (hAxis : grid.axes[place]? = some axis) :
    ∃ value,
      axis.values[index / grid.stride place % axis.size]? =
          some value ∧
        tuple.bindings[place]? = some (axis.bind value) := by
  unfold get? at hTuple
  split at hTuple
  next =>
    rcases Option.map_eq_some_iff.mp hTuple with
      ⟨bindings, hBindings, rfl⟩
    have hSize :
        (grid.axes.map Axis.size)[place]? =
          some axis.size := by
      rw [List.getElem?_map, hAxis, Option.map_some]
    have hPosition := getElem?_digits index hSize
    rw [← List.map_drop] at hPosition
    exact getElem?_of_bindAll? hBindings hAxis hPosition
  next => cases hTuple

end Grid

------------------------------------------------------------
-- Combinations
------------------------------------------------------------

/- One value is chosen from every axis. -/
def IsCombination
    (axes : List Axis)
    (values : List AxisValue) : Prop :=
  List.Forall₂ (fun axis value => value ∈ axis.values)
    axes values

/- The tuple has the chosen values, each under the flag of
   its axis. -/
def Tuple.HasValues
    (tuple : Tuple)
    (axes : List Axis)
    (values : List AxisValue) : Prop :=
  List.Forall₂
    (fun axis value => tuple.get? axis.flag = some value)
    axes values

/- Bound to the axes, a combination is in the product. -/
theorem IsCombination.mem_product
    {axes : List Axis}
    {values : List AxisValue}
    (hValues : IsCombination axes values) :
    List.zipWith Axis.bind axes values ∈
      bindingProduct axes := by
  rw [Grid.mem_bindingProduct]
  induction hValues with
  | nil => exact .nil
  | @cons axis value axes values hValue _ ih =>
      exact .cons ⟨value, hValue, rfl⟩ ih

/- Bindings that are found under their flags are to the
   values that are found there. -/
theorem bindings_eq_iff
    {tuple : Tuple}
    {axes : List Axis}
    {bindings : List Binding}
    {values : List AxisValue}
    (hFound :
      ∀ b ∈ bindings, tuple.get? b.flag = some b.value)
    (hBindings : bindings ∈ bindingProduct axes)
    (hLength : axes.length = values.length) :
    bindings = List.zipWith Axis.bind axes values ↔
      tuple.HasValues axes values := by
  rw [Grid.mem_bindingProduct] at hBindings
  induction hBindings generalizing values with
  | nil =>
      cases List.eq_nil_of_length_eq_zero hLength.symm
      exact iff_of_true rfl .nil
  | @cons axis b axes bindings hFirst _ ih =>
      rcases hFirst with ⟨own, _, rfl⟩
      rw [List.forall_mem_cons] at hFound
      cases values with
      | nil => cases hLength
      | cons value values =>
          have hRest := ih hFound.2 (Nat.succ.inj hLength)
          have hOwn : tuple.get? axis.flag = some own :=
            hFound.1
          have hSame :
              axis.bind own = axis.bind value ↔
                own = value := by
            simp [Axis.bind]
          unfold Tuple.HasValues at hRest ⊢
          rw [List.zipWith_cons_cons, List.cons.injEq, hRest,
            List.forall₂_cons, hOwn, Option.some.injEq,
            hSame]

namespace Sweep

variable {sweep : Sweep}

/- No two tuples have the values of one combination, and the
   number of a tuple tells at which position of an axis its
   value stands. -/
structure NumbersCombinations (sweep : Sweep) : Prop where
  unique :
    ∀ values tuple other,
      IsCombination sweep.axes values →
        tuple ∈ sweep.grid.tuples →
          other ∈ sweep.grid.tuples →
            tuple.HasValues sweep.axes values →
              other.HasValues sweep.axes values →
                tuple = other
  positions :
    ∀ index tuple place axis,
      sweep.grid.get? index = some tuple →
        sweep.axes[place]? = some axis →
          ∃ value,
            axis.values[index / sweep.grid.stride place %
                axis.size]? =
              some value ∧
            tuple.get? axis.flag = some value

/- Each choice of one value from every axis is that of a
   single number. -/
structure SweepsCombinations (sweep : Sweep) : Prop
    extends sweep.NumbersCombinations where
  once :
    ∀ values,
      IsCombination sweep.axes values →
        ∃! index,
          ∃ tuple,
            sweep.grid.get? index = some tuple ∧
              tuple.HasValues sweep.axes values

namespace IsValid

variable (hValid : sweep.IsValid)
include hValid

/- A tuple has the values of a combination just if it binds
   these to the axes. -/
theorem hasValues_iff
    {tuple : Tuple}
    {values : List AxisValue}
    (hTuple : tuple ∈ sweep.grid.tuples)
    (hLength : sweep.axes.length = values.length) :
    tuple.HasValues sweep.axes values ↔
      tuple.bindings =
        List.zipWith Axis.bind sweep.axes values := by
  have hFound :
      ∀ b ∈ tuple.bindings,
        tuple.get? b.flag = some b.value := by
    intro b hBinding
    exact
      Tuple.get?_flag (hValid.nodup_binding_flags hTuple)
        hBinding
  exact
    (bindings_eq_iff hFound
      (Grid.bindings_mem_product hTuple) hLength).symm

theorem numbersCombinations : sweep.NumbersCombinations := by
  constructor
  case unique =>
    intro values tuple other hValues hTuple hOther hHas hHas'
    have hLength := hValues.length_eq
    have hBindings :=
      (hValid.hasValues_iff hTuple hLength).mp hHas
    rw [← (hValid.hasValues_iff hOther hLength).mp hHas']
      at hBindings
    exact hValid.eq_of_bindings_eq hTuple hOther hBindings
  case positions =>
    intro index tuple place axis hTuple hAxis
    rcases Grid.exists_value_at hTuple hAxis with
      ⟨value, hValue, hBinding⟩
    have hMember := Grid.mem_tuples_of_get? hTuple
    refine ⟨value, hValue, ?_⟩
    exact
      Tuple.get?_flag (b := axis.bind value)
        (hValid.nodup_binding_flags hMember)
        (List.mem_of_getElem? hBinding)

/- If a word can count the combinations, each of them has a
   tuple. -/
theorem exists_hasValues
    {values : List AxisValue}
    (hFew : sweep.grid.choices < twoTo 64)
    (hValues : IsCombination sweep.axes values) :
    ∃ tuple ∈ sweep.grid.tuples,
      tuple.HasValues sweep.axes values := by
  have hMember :
      List.zipWith Axis.bind sweep.axes values ∈
        bindingProduct sweep.grid.axes :=
    hValues.mem_product
  rw [← Grid.map_bindings_tuples hFew, List.mem_map]
    at hMember
  rcases hMember with ⟨tuple, hTuple, hBindings⟩
  refine ⟨tuple, hTuple, ?_⟩
  exact
    (hValid.hasValues_iff hTuple hValues.length_eq).mpr
      hBindings

end IsValid

/- Axes of different lengths, whose values look alike from
   axis to axis but not on the same axis. -/
def uneven : Sweep :=
  { name := "uneven"
    axes :=
      [ { name := "a"
          flag := "a"
          token := "a"
          values := [.integer 1, .integer (-2)] },
        { name := "b"
          flag := "b"
          token := "b"
          values := [.text "-2", .text "true", .text "1"] },
        { name := "c"
          flag := "c"
          token := "c"
          values := [.bool true, .text "1"] } ]
    concurrency := 2
    simulator := { runner := "sim", scenario := "s" } }

/- More combinations than a word can count. -/
def wide : Sweep :=
  { name := "wide"
    axes := Grid.wideAxes [.bool false, .bool true]
    concurrency := 1
    simulator := { runner := "sim", scenario := "s" } }

end Sweep

end LatencySweep
