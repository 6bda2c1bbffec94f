import LatencySweep.Proofs.Sweep.Defects
import Mathlib.Data.List.Nodup

/-
  A well-formed sweep stays so with fewer values.

  Tuples that bind the same flags to the same values have
  the same directory, so the values on an axis are all
  different, and so are the choices of one value per axis.
  The choices that are left when values are taken away are
  some of those, whatever their new numbers and the order of
  the values that were kept.

  All this is so because the directories of all choices were
  compared. Where a word cannot count the choices, some were
  not, and a narrower sweep may be refused for them.

  Main declarations:
    * `Grid.nodup_bindingProduct_iff`
    * `Axis.IsSelection`
    * `Sweep.narrow`
    * `Sweep.IsPartOf`
    * `Sweep.IsValid.isPartOf_narrow`
    * `Sweep.crowded_narrow_collides`
-/

namespace LatencySweep

------------------------------------------------------------
-- Repeated Choices
------------------------------------------------------------

namespace Grid

theorem bindingProduct_ne_nil
    {axes : List Axis}
    (hValues : ∀ axis ∈ axes, axis.values ≠ []) :
    bindingProduct axes ≠ [] := by
  induction axes with
  | nil => exact List.cons_ne_nil _ _
  | cons axis axes ih =>
      rw [List.forall_mem_cons] at hValues
      rcases List.exists_mem_of_ne_nil _ hValues.1 with
        ⟨value, hValue⟩
      rcases List.exists_mem_of_ne_nil _ (ih hValues.2) with
        ⟨others, hOthers⟩
      apply List.ne_nil_of_mem
      apply List.mem_flatMap.mpr
      exact
        ⟨value, hValue, List.mem_map_of_mem hOthers⟩

/- Choices that start with different values differ. -/
theorem disjoint_bind_iff
    {choices : List (List Binding)}
    (hChoices : choices ≠ [])
    (axis : Axis)
    (value other : AxisValue) :
    (choices.map (axis.bind value :: ·)).Disjoint
        (choices.map (axis.bind other :: ·)) ↔
      value ≠ other := by
  constructor
  · rintro hDisjoint rfl
    rcases List.exists_mem_of_ne_nil _ hChoices with
      ⟨choice, hChoice⟩
    have hMember :
        axis.bind value :: choice ∈
          choices.map (axis.bind value :: ·) :=
      List.mem_map_of_mem hChoice
    exact hDisjoint hMember hMember
  · intro hValues choice hFirst hSecond
    rcases List.mem_map.mp hFirst with ⟨rest, _, rfl⟩
    rcases List.mem_map.mp hSecond with ⟨rest', _, hSame⟩
    rw [List.cons.injEq] at hSame
    exact hValues (congrArg Binding.value hSame.1).symm

/- Unless an axis is empty, choices are repeated just if an
   axis repeats a value. -/
theorem nodup_bindingProduct_iff
    {axes : List Axis}
    (hValues : ∀ axis ∈ axes, axis.values ≠ []) :
    (bindingProduct axes).Nodup ↔
      ∀ axis ∈ axes, axis.values.Nodup := by
  induction axes with
  | nil => simp [bindingProduct]
  | cons axis axes ih =>
      rw [List.forall_mem_cons] at hValues
      have hOthers := bindingProduct_ne_nil hValues.2
      have hSingle (value : AxisValue) :
          ((bindingProduct axes).map
              (axis.bind value :: ·)).Nodup ↔
            (bindingProduct axes).Nodup :=
        List.nodup_map_iff List.cons_injective
      rw [bindingProduct, List.nodup_flatMap,
        List.forall_mem_cons, ← ih hValues.2, and_comm]
      apply and_congr
      · unfold Function.onFun
        simp only [disjoint_bind_iff hOthers]
        rfl
      · rcases List.exists_mem_of_ne_nil _ hValues.1 with
          ⟨value, hValue⟩
        simp only [hSingle]
        exact ⟨fun hAll => hAll value hValue, fun h _ _ => h⟩

end Grid

namespace Sweep.IsValid

variable {sweep : Sweep}
variable
  (hValid : sweep.IsValid)
  (hFew : sweep.grid.choices < twoTo 64)
include hValid hFew

/- The choices of a well-formed sweep have different
   directories, so no choice is repeated. -/
theorem nodup_bindingProduct :
    (bindingProduct sweep.axes).Nodup := by
  change (bindingProduct sweep.grid.axes).Nodup
  rw [← Grid.map_bindings_tuples hFew]
  apply sweep.grid.nodup_tuples.map_on
  intro a hA b hB hSame
  exact hValid.eq_of_bindings_eq hA hB hSame

/- Nor is a value of an axis. -/
theorem nodup_values :
    ∀ axis ∈ sweep.axes, axis.values.Nodup :=
  (Grid.nodup_bindingProduct_iff
    (defect?_eq_none_iff.mp hValid).values).mp
      (hValid.nodup_bindingProduct hFew)

end Sweep.IsValid

------------------------------------------------------------
-- Selections
------------------------------------------------------------

namespace Axis

/- Some positions on an axis, in any order. -/
structure IsSelection
    (axis : Axis)
    (positions : List Nat) : Prop where
  some : positions ≠ []
  distinct : positions.Nodup
  known : ∀ position ∈ positions, position < axis.size

instance (axis : Axis) (positions : List Nat) :
    Decidable (axis.IsSelection positions) :=
  decidable_of_iff
    (positions ≠ [] ∧ positions.Nodup ∧
      ∀ position ∈ positions, position < axis.size)
    ⟨fun ⟨hSome, hDistinct, hKnown⟩ =>
        ⟨hSome, hDistinct, hKnown⟩,
      fun hSelection =>
        ⟨hSelection.some, hSelection.distinct,
          hSelection.known⟩⟩

/- The axis with the values at some positions only. -/
def select (axis : Axis) (positions : List Nat) : Axis :=
  { axis with
    values := positions.filterMap (axis.values[·]?) }

theorem mem_values_of_select
    {axis : Axis}
    {positions : List Nat}
    {value : AxisValue}
    (hValue : value ∈ (axis.select positions).values) :
    value ∈ axis.values := by
  rcases List.mem_filterMap.mp hValue with
    ⟨position, _, hPosition⟩
  exact List.mem_of_getElem? hPosition

/- A value is left. -/
theorem IsSelection.values_ne_nil
    {axis : Axis}
    {positions : List Nat}
    (hSelection : axis.IsSelection positions) :
    (axis.select positions).values ≠ [] := by
  rcases List.exists_mem_of_ne_nil _ hSelection.some with
    ⟨position, hPosition⟩
  have hKnown : position < axis.values.length :=
    hSelection.known position hPosition
  apply List.ne_nil_of_mem
  apply List.mem_filterMap.mpr
  exact
    ⟨position, hPosition, List.getElem?_eq_getElem hKnown⟩

/- Different values are left if they were different. -/
theorem IsSelection.nodup_values
    {axis : Axis}
    {positions : List Nat}
    (hSelection : axis.IsSelection positions)
    (hValues : axis.values.Nodup) :
    (axis.select positions).values.Nodup := by
  refine hSelection.distinct.filterMap ?_
  intro i j value hI hJ
  have hLess := (List.getElem?_eq_some_iff.mp hI).1
  exact
    (List.getElem?_inj hLess hValues).mp
      (hI.trans hJ.symm)

end Axis

section Selections

variable {axes : List Axis} {selections : List (List Nat)}
variable
  (hSelections :
    List.Forall₂ Axis.IsSelection axes selections)
include hSelections

/- Every axis is one of the former, with a selection. -/
theorem exists_selection_of_mem
    {axis : Axis}
    (hAxis :
      axis ∈ List.zipWith Axis.select axes selections) :
    ∃ former ∈ axes, ∃ positions,
      former.IsSelection positions ∧
        axis = former.select positions := by
  induction hSelections with
  | nil => cases hAxis
  | @cons former positions axes selections hFirst _ ih =>
      rcases List.mem_cons.mp hAxis with rfl | hRest
      · exact
          ⟨former, List.mem_cons_self, positions, hFirst,
            rfl⟩
      · rcases ih hRest with ⟨other, hOther, hOwn⟩
        exact ⟨other, List.mem_cons_of_mem _ hOther, hOwn⟩

/- What does not depend on the values stays as it was. -/
theorem map_select
    {key : Axis → String}
    (hKey :
      ∀ axis positions,
        key (axis.select positions) = key axis) :
    (List.zipWith Axis.select axes selections).map key =
      axes.map key := by
  induction hSelections with
  | nil => rfl
  | cons _ _ ih =>
      rw [List.zipWith_cons_cons, List.map_cons,
        List.map_cons, hKey, ih]

/- The choices that are left are some of the former. -/
theorem bindingProduct_select_subset :
    bindingProduct
        (List.zipWith Axis.select axes selections) ⊆
      bindingProduct axes := by
  intro bindings hBindings
  rw [Grid.mem_bindingProduct] at hBindings ⊢
  induction hSelections generalizing bindings with
  | nil => exact hBindings
  | cons _ _ ih =>
      rw [List.zipWith_cons_cons] at hBindings
      cases hBindings with
      | cons hFirst hRest =>
          rcases hFirst with ⟨value, hValue, rfl⟩
          refine .cons ⟨value, ?_, rfl⟩ (ih hRest)
          exact Axis.mem_values_of_select hValue

end Selections

------------------------------------------------------------
-- Narrower Sweeps
------------------------------------------------------------

namespace Sweep

/- The sweep with selected values on each axis. -/
def narrow
    (sweep : Sweep)
    (selections : List (List Nat)) : Sweep :=
  { sweep with
    axes := List.zipWith Axis.select sweep.axes selections }

/- The names of all directories. -/
def directoryNames (sweep : Sweep) : List String :=
  sweep.grid.tuples.map sweep.directoryName

/- A sweep is well-formed and has some of the directories of
   another one, whose tuples there bind the same flags to
   the same values. -/
structure IsPartOf (sweep whole : Sweep) : Prop where
  valid : sweep.IsValid
  names : sweep.directoryNames ⊆ whole.directoryNames
  owners :
    ∀ tuple ∈ sweep.grid.tuples,
      ∃ other ∈ whole.grid.tuples,
        other.bindings = tuple.bindings ∧
          ∀ owner ∈ whole.grid.tuples,
            whole.directoryName owner =
                sweep.directoryName tuple ↔
              owner = other

namespace IsValid

variable {sweep : Sweep} {selections : List (List Nat)}
variable
  (hValid : sweep.IsValid)
  (hFew : sweep.grid.choices < twoTo 64)
  (hSelections :
    List.Forall₂ Axis.IsSelection sweep.axes selections)

include hFew hSelections in
/- Every tuple that is left makes a former choice. -/
theorem exists_tuple_of_narrow
    {tuple : Tuple}
    (hTuple : tuple ∈ (sweep.narrow selections).grid.tuples) :
    ∃ other ∈ sweep.grid.tuples,
      other.bindings = tuple.bindings := by
  have hChoice :
      tuple.bindings ∈ bindingProduct sweep.grid.axes :=
    bindingProduct_select_subset hSelections
      (Grid.bindings_mem_product hTuple)
  rw [← Grid.map_bindings_tuples hFew] at hChoice
  exact List.mem_map.mp hChoice

include hValid hFew hSelections

/- Choices that are left are still different. -/
theorem eq_of_bindings_eq_of_narrow
    {a b : Tuple}
    (hA : a ∈ (sweep.narrow selections).grid.tuples)
    (hB : b ∈ (sweep.narrow selections).grid.tuples)
    (hBindings : a.bindings = b.bindings) :
    a = b := by
  let narrow := sweep.narrow selections
  have hNodup : (bindingProduct narrow.axes).Nodup := by
    rw [Grid.nodup_bindingProduct_iff]
    · intro axis hAxis
      rcases exists_selection_of_mem hSelections hAxis with
        ⟨former, hFormer, positions, hSelection, rfl⟩
      exact
        hSelection.nodup_values
          (hValid.nodup_values hFew former hFormer)
    · intro axis hAxis
      rcases exists_selection_of_mem hSelections hAxis with
        ⟨former, _, positions, hSelection, rfl⟩
      exact hSelection.values_ne_nil
  have hTuples :
      (narrow.grid.tuples.map Tuple.bindings).Nodup :=
    narrow.grid.map_bindings_tuples_prefix.sublist.nodup
      hNodup
  exact List.inj_on_of_nodup_map hTuples hA hB hBindings

/- So are their directories, which are former ones. -/
theorem hasDistinctNames_narrow :
    (sweep.narrow selections).HasDistinctNames := by
  intro i j hI hJ hNames
  let narrow := sweep.narrow selections
  rcases narrow.grid.exists_get? hI with ⟨a, hGetA⟩
  rcases narrow.grid.exists_get? hJ with ⟨b, hGetB⟩
  have hA := Grid.mem_tuples_of_get? hGetA
  have hB := Grid.mem_tuples_of_get? hGetB
  have hSame :
      narrow.directoryName a = narrow.directoryName b := by
    unfold nameAt? at hNames
    rw [hGetA, hGetB] at hNames
    exact Option.some.inj hNames
  rcases exists_tuple_of_narrow hFew hSelections hA with
    ⟨a', hA', hBindingsA⟩
  rcases exists_tuple_of_narrow hFew hSelections hB with
    ⟨b', hB', hBindingsB⟩
  have hFormer : a' = b' := by
    apply hValid.eq_of_directoryName_eq hA' hB'
    unfold directoryName Tuple.directoryName at hSame ⊢
    rw [hBindingsA, hBindingsB]
    exact hSame
  have hBindings : a.bindings = b.bindings := by
    rw [← hBindingsA, hFormer, hBindingsB]
  rw [← Grid.index_of_get? hGetA, ← Grid.index_of_get? hGetB,
    hValid.eq_of_bindings_eq_of_narrow hFew hSelections hA
      hB hBindings]

theorem narrow_isValid : (sweep.narrow selections).IsValid := by
  have hFormer := defect?_eq_none_iff.mp hValid
  apply defect?_eq_none_iff.mpr
  constructor
  case axes =>
    intro hNone
    have hMapped :
        (sweep.narrow selections).axes.map Axis.name =
          sweep.axes.map Axis.name :=
      map_select hSelections fun _ _ => rfl
    rw [hNone] at hMapped
    exact
      hFormer.axes (List.map_eq_nil_iff.mp hMapped.symm)
  case workers => exact hFormer.workers
  case values =>
    intro axis hAxis
    rcases exists_selection_of_mem hSelections hAxis with
      ⟨former, _, positions, hSelection, rfl⟩
    exact hSelection.values_ne_nil
  case names =>
    have hNames := hFormer.names
    rwa [← map_select hSelections fun _ _ => rfl] at hNames
  case flags =>
    have hFlags := hFormer.flags
    rwa [← map_select hSelections fun _ _ => rfl] at hFlags
  case tokens =>
    have hTokens := hFormer.tokens
    rwa [← map_select hSelections fun _ _ => rfl] at hTokens
  case texts =>
    intro axis hAxis text hText
    rcases exists_selection_of_mem hSelections hAxis with
      ⟨former, hMember, positions, _, rfl⟩
    exact
      hFormer.texts former hMember text
        (Axis.mem_values_of_select hText)
  case directories =>
    exact hValid.hasDistinctNames_narrow hFew hSelections

end IsValid

/- Values that look like the labels of the next axis. -/
def entangled : Sweep :=
  { name := "entangled"
    axes :=
      [ { name := "a"
          flag := "a"
          token := "a"
          values :=
            [.text "1", .integer 4, .text "1_b-2"] },
        { name := "b"
          flag := "b"
          token := "b"
          values := [.integer 2, .text "x_b-", .bool true] } ]
    concurrency := 1
    simulator := { runner := "sim", scenario := "s" } }

/- Many axes with two values that look alike. -/
def crowded : Sweep :=
  { name := "crowded"
    axes := Grid.wideAxes [.integer 1, .text "1"]
    concurrency := 1
    simulator := { runner := "sim", scenario := "s" } }

/- Both values of the first axis, and one of each other. -/
def crowdedPart : List (List Nat) :=
  [0, 1] :: List.replicate 63 [0]

end Sweep

end LatencySweep
