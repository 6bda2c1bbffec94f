import LatencySweep.Proofs.Grid.Tuples
import Mathlib.Algebra.BigOperators.Group.List.Basic
import Mathlib.Data.List.Forall2

/-
  The tuples of a grid are a product of its axes.

  The product is taken axis by axis: for each value of the
  first axis, every tuple of the others. The place of a
  tuple in this order is split by the digits of its number,
  so a tuple can be had without those in front of it. Where
  a word is too short to count the choices, the tuples are
  the first of them.

  Main declarations:
    * `bindingProduct`
    * `Grid.digits_mul_add`
    * `Grid.filterMap_bindAll?`
    * `Grid.mem_bindingProduct`
    * `Grid.map_bindings_tuples_prefix`
    * `Grid.bindings_mem_product`
    * `Grid.IsLexicographic`
    * `Grid.lexicographic_product`
-/

namespace LatencySweep

------------------------------------------------------------
-- Products
------------------------------------------------------------

/- All choices of one value per axis. The choices for the
   first axis come in the order of its values. -/
def bindingProduct : List Axis → List (List Binding)
  | [] => [[]]
  | axis :: axes =>
      axis.values.flatMap fun value =>
        (bindingProduct axes).map (axis.bind value :: ·)

theorem length_bindingProduct (axes : List Axis) :
    (bindingProduct axes).length =
      (⟨axes⟩ : Grid).choices := by
  induction axes with
  | nil => rfl
  | cons axis axes ih =>
      simp [bindingProduct, ih, Axis.size]

------------------------------------------------------------
-- Ranges
------------------------------------------------------------

/- The numbers below a product, row by row. -/
theorem range_mul (rows count : Nat) :
    List.range (rows * count) =
      (List.range rows).flatMap fun row =>
        (List.range count).map (row * count + ·) := by
  induction rows with
  | zero => simp
  | succ rows ih =>
      rw [Nat.succ_mul, List.range_add, ih,
        List.range_succ, List.flatMap_append,
        List.flatMap_singleton]

/- What is made of each place of a list can be made of the
   item there. -/
theorem flatMap_range_length
    {α β : Type}
    (items : List α)
    {f : Nat → List β}
    {g : α → List β}
    (hSame :
      ∀ place item, items[place]? = some item →
        f place = g item) :
    (List.range items.length).flatMap f =
      items.flatMap g := by
  induction items generalizing f with
  | nil => rfl
  | cons item items ih =>
      have hRest :
          (List.range items.length).flatMap
              (fun place => f (place + 1)) =
            items.flatMap g :=
        ih fun place other hOther =>
          hSame (place + 1) other hOther
      rw [List.length_cons, List.range_succ_eq_map,
        List.flatMap_cons, List.flatMap_map,
        List.flatMap_cons, hSame 0 item rfl]
      exact congrArg (g item ++ ·) hRest

namespace Grid

------------------------------------------------------------
-- Digits
------------------------------------------------------------

/-
  Whole turns through all bases are left in front of the
  digits, and do not change them.
-/
theorem digits_mul_add
    (bases : List Nat)
    (turns : Nat)
    {rest : Nat}
    (hRest : rest < bases.foldr (· * ·) 1) :
    digits bases (turns * bases.foldr (· * ·) 1 + rest) =
      ((digits bases rest).1, turns) := by
  induction bases generalizing turns rest with
  | nil =>
      rw [List.foldr_nil] at hRest ⊢
      simp only [digits]
      congr
      omega
  | cons base bases ih =>
      rw [List.foldr_cons] at hRest ⊢
      let volume := bases.foldr (· * ·) 1
      have hVolume : 0 < volume :=
        Nat.pos_of_mul_pos_left (Nat.zero_lt_of_lt hRest)
      have hInner : rest % volume < volume :=
        Nat.mod_lt rest hVolume
      have hFirst : rest / volume < base :=
        (Nat.div_lt_iff_lt_mul hVolume).mpr hRest
      have hBase : 0 < base := Nat.zero_lt_of_lt hFirst
      have hAll :
          turns * (base * volume) + rest =
            (turns * base + rest / volume) * volume +
              rest % volume := by
        rw [Nat.add_mul, Nat.mul_assoc, Nat.add_assoc,
          Nat.mul_comm (rest / volume),
          Nat.div_add_mod rest volume]
      have hAlone :
          rest = rest / volume * volume + rest % volume := by
        rw [Nat.mul_comm, Nat.div_add_mod rest volume]
      have hDigits :
          digits bases rest =
            ((digits bases (rest % volume)).1,
              rest / volume) := by
        conv => lhs; rw [hAlone]
        exact ih (rest / volume) hInner
      have hTurns :
          (turns * base + rest / volume) / base = turns := by
        rw [Nat.mul_comm, Nat.mul_add_div hBase,
          Nat.div_eq_of_lt hFirst, Nat.add_zero]
      rw [hAll, digits, ih _ hInner, digits, hDigits]
      dsimp only
      rw [hTurns, Nat.mul_add_mod_self_right]

------------------------------------------------------------
-- Bindings
------------------------------------------------------------

/- The first position is the row, the others those of the
   place in the row. -/
theorem positions_cons
    {axis : Axis}
    {axes : List Axis}
    {row place : Nat}
    (hRow : row < axis.size)
    (hPlace : place < (⟨axes⟩ : Grid).choices) :
    (⟨axis :: axes⟩ : Grid).positions
        (row * (⟨axes⟩ : Grid).choices + place) =
      row :: (⟨axes⟩ : Grid).positions place := by
  have hDigits :=
    digits_mul_add (axes.map Axis.size) row hPlace
  unfold positions choices
  rw [List.map_cons, digits, hDigits]
  dsimp only
  rw [Nat.mod_eq_of_lt hRow]

/- Every position of a tuple is that of a value. -/
theorem positions_lt
    (axes : List Axis)
    {index : Nat}
    (hIndex : index < (⟨axes⟩ : Grid).choices) :
    List.Forall₂
      (fun axis position => position < axis.values.length)
      axes ((⟨axes⟩ : Grid).positions index) := by
  induction axes generalizing index with
  | nil => exact .nil
  | cons axis axes ih =>
      rw [choices_cons] at hIndex
      let count := (⟨axes⟩ : Grid).choices
      have hCount : 0 < count :=
        Nat.pos_of_mul_pos_left (Nat.zero_lt_of_lt hIndex)
      have hRow : index / count < axis.size :=
        (Nat.div_lt_iff_lt_mul hCount).mpr hIndex
      have hPlace : index % count < count :=
        Nat.mod_lt index hCount
      have hSplit :
          index = index / count * count + index % count := by
        rw [Nat.mul_comm, Nat.div_add_mod index count]
      rw [hSplit, positions_cons hRow hPlace]
      exact .cons hRow (ih hPlace)

/- A grid with a choice has no empty axis. -/
theorem size_axis_ne_zero
    {axes : List Axis}
    (hChoices : 0 < (⟨axes⟩ : Grid).choices) :
    ∀ axis ∈ axes, axis.size ≠ 0 := by
  induction axes with
  | nil => nofun
  | cons axis axes ih =>
      rw [choices_cons] at hChoices
      rw [List.forall_mem_cons]
      exact
        ⟨Nat.ne_of_gt (Nat.pos_of_mul_pos_right hChoices),
          ih (Nat.pos_of_mul_pos_left hChoices)⟩

/- A binding in front of those to other axes. -/
theorem bindAll?_cons
    {axis : Axis}
    {position : Nat}
    {value : AxisValue}
    (axes : List Axis)
    (positions : List Nat)
    (hValue : axis.values[position]? = some value) :
    bindAll? (axis :: axes) (position :: positions) =
      (bindAll? axes positions).map
        (axis.bind value :: ·) := by
  have hBinding :
      axis.binding? position = some (axis.bind value) := by
    rw [Axis.binding?, hValue, Option.map_some]
  rw [bindAll?, hBinding]
  cases bindAll? axes positions <;> rfl

/- What numbers are decoded to is the product, in its
   order. -/
theorem filterMap_bindAll? (axes : List Axis) :
    (List.range (⟨axes⟩ : Grid).choices).filterMap
        (fun index =>
          bindAll? axes ((⟨axes⟩ : Grid).positions index)) =
      bindingProduct axes := by
  induction axes with
  | nil => rfl
  | cons axis axes ih =>
      let count := (⟨axes⟩ : Grid).choices
      have hRow
          (row : Nat)
          (value : AxisValue)
          (hValue : axis.values[row]? = some value) :
          ((List.range count).map
              (row * count + ·)).filterMap
            (fun index =>
              bindAll? (axis :: axes)
                ((⟨axis :: axes⟩ : Grid).positions index)) =
            (bindingProduct axes).map
              (axis.bind value :: ·) := by
        have hLess : row < axis.size :=
          (List.getElem?_eq_some_iff.mp hValue).1
        rw [List.filterMap_map, ← ih, List.map_filterMap]
        apply List.filterMap_congr
        intro place hPlace
        rw [Function.comp_apply,
          positions_cons hLess (List.mem_range.mp hPlace),
          bindAll?_cons axes _ hValue]
      rw [choices_cons, range_mul, List.filterMap_flatMap,
        bindingProduct]
      exact flatMap_range_length axis.values hRow

/- The tuples make the choices that come first. -/
theorem map_bindings_tuples_prefix (grid : Grid) :
    grid.tuples.map Tuple.bindings <+:
      bindingProduct grid.axes := by
  have hDecoded :
      grid.tuples.map Tuple.bindings =
        (List.range grid.size).filterMap fun index =>
          bindAll? grid.axes (grid.positions index) := by
    rw [tuples, List.map_filterMap]
    apply List.filterMap_congr
    intro index hIndex
    rw [get?, if_pos (List.mem_range.mp hIndex),
      Option.map_map]
    exact Option.map_id'
  rcases Nat.exists_eq_add_of_le grid.size_le_choices with
    ⟨others, hOthers⟩
  have hRange :
      List.range grid.size <+: List.range grid.choices := by
    rw [hOthers, List.range_add]
    exact List.prefix_append _ _
  rw [hDecoded, ← filterMap_bindAll? grid.axes]
  exact hRange.filterMap _

/- They make all of them if a word can count these. -/
theorem map_bindings_tuples
    {grid : Grid}
    (hFew : grid.choices < twoTo 64) :
    grid.tuples.map Tuple.bindings =
      bindingProduct grid.axes := by
  apply grid.map_bindings_tuples_prefix.eq_of_length
  rw [List.length_map, length_tuples, size_eq_choices hFew,
    length_bindingProduct]

/- Tuples are the choices of the product, numbered. -/
theorem tuples_eq_mapIdx
    {grid : Grid}
    (hFew : grid.choices < twoTo 64) :
    grid.tuples =
      (bindingProduct grid.axes).mapIdx Tuple.mk := by
  apply List.ext_getElem?
  intro place
  rw [List.getElem?_mapIdx, ← map_bindings_tuples hFew,
    List.getElem?_map]
  cases hTuple : grid.tuples[place]? with
  | none => rfl
  | some tuple =>
      have hIndex := index_of_getElem?_tuples hTuple
      rw [← hIndex]
      rfl

/- A choice of the product binds a value of every axis to
   the flag and the token of the axis. -/
theorem mem_bindingProduct
    {axes : List Axis}
    {bindings : List Binding} :
    bindings ∈ bindingProduct axes ↔
      List.Forall₂
        (fun axis b =>
          ∃ value ∈ axis.values, b = axis.bind value)
        axes bindings := by
  induction axes generalizing bindings with
  | nil => simp [bindingProduct]
  | cons axis axes ih =>
      simp only [bindingProduct, List.mem_flatMap,
        List.mem_map, ih, List.forall₂_cons_left_iff]
      constructor
      · rintro ⟨value, hValue, others, hOthers, rfl⟩
        exact
          ⟨_, others, ⟨value, hValue, rfl⟩, hOthers, rfl⟩
      · rintro ⟨_, others, ⟨value, hValue, rfl⟩, hOthers, rfl⟩
        exact ⟨value, hValue, others, hOthers, rfl⟩

/- Every binding of a choice is one of some axis. -/
theorem exists_axis_of_mem
    {axes : List Axis}
    {bindings : List Binding}
    (hChoice : bindings ∈ bindingProduct axes)
    {b : Binding}
    (hBinding : b ∈ bindings) :
    ∃ axis ∈ axes, ∃ value ∈ axis.values,
      b = axis.bind value := by
  rw [mem_bindingProduct] at hChoice
  induction hChoice with
  | nil => exact absurd hBinding List.not_mem_nil
  | @cons axis first axes bindings hFirst _ ih =>
      rcases List.mem_cons.mp hBinding with rfl | hOther
      · exact ⟨axis, List.mem_cons_self, hFirst⟩
      · rcases ih hOther with ⟨other, hAxis, hValue⟩
        exact ⟨other, List.mem_cons_of_mem _ hAxis, hValue⟩

/- The flags of a choice are those of the axes. -/
theorem map_flag_of_mem
    {axes : List Axis}
    {bindings : List Binding}
    (hChoice : bindings ∈ bindingProduct axes) :
    bindings.map Binding.flag = axes.map Axis.flag := by
  rw [eq_comm, ← List.forall₂_eq_eq_eq,
    List.forall₂_map_left_iff, List.forall₂_map_right_iff]
  refine (mem_bindingProduct.mp hChoice).imp ?_
  rintro axis b ⟨value, _, rfl⟩
  rfl

/- Every flag of an axis is bound. -/
theorem exists_binding_of_mem
    {axes : List Axis}
    {bindings : List Binding}
    (hChoice : bindings ∈ bindingProduct axes)
    {axis : Axis}
    (hAxis : axis ∈ axes) :
    ∃ b ∈ bindings, b.flag = axis.flag := by
  rw [← List.mem_map, map_flag_of_mem hChoice]
  exact List.mem_map_of_mem hAxis

/- Every tuple makes such a choice. -/
theorem bindings_mem_product
    {grid : Grid}
    {tuple : Tuple}
    (hTuple : tuple ∈ grid.tuples) :
    tuple.bindings ∈ bindingProduct grid.axes :=
  grid.map_bindings_tuples_prefix.subset
    (List.mem_map_of_mem hTuple)

------------------------------------------------------------
-- Grids as Products
------------------------------------------------------------

/- The grid is the product of its axes, and looking up a
   tuple neither divides by zero nor misses a value. -/
structure IsLexicographic (grid : Grid) : Prop where
  size :
    grid.size =
      (grid.axes.map fun axis => axis.values.length).prod
  absent :
    ∀ index, grid.get? index = none ↔ grid.size ≤ index
  bases :
    ∀ index, index < grid.size →
      ∀ base ∈ grid.axes.map Axis.size, base ≠ 0
  positions :
    ∀ index, index < grid.size →
      List.Forall₂
        (fun axis position => position < axis.values.length)
        grid.axes (grid.positions index)
  tuples :
    grid.tuples =
      (bindingProduct grid.axes).mapIdx Tuple.mk
  bindings :
    ∀ tuple ∈ grid.tuples,
      List.Forall₂
        (fun axis b =>
          b.flag = axis.flag ∧ b.token = axis.token ∧
            b.value ∈ axis.values)
        grid.axes tuple.bindings
  indices :
    ∀ (place : Nat) (tuple : Tuple),
      grid.tuples[place]? = some tuple →
        tuple.index = place

theorem get?_eq_none_iff
    (grid : Grid)
    (index : Nat) :
    grid.get? index = none ↔ grid.size ≤ index := by
  constructor
  · intro hNone
    by_contra hLess
    rcases grid.exists_get? (Nat.not_le.mp hLess) with
      ⟨tuple, hTuple⟩
    rw [hNone] at hTuple
    cases hTuple
  · intro hLe
    rw [get?, if_neg (Nat.not_lt.mpr hLe)]

/- Grids whose choices a word can count are products. -/
theorem lexicographic_product
    (grid : Grid)
    (hFew : grid.choices < twoTo 64) :
    grid.IsLexicographic where
  size := size_eq_choices hFew
  absent := grid.get?_eq_none_iff
  bases := by
    intro index hIndex base hBase
    rcases List.mem_map.mp hBase with ⟨axis, hAxis, rfl⟩
    rw [size_eq_choices hFew] at hIndex
    exact
      size_axis_ne_zero (Nat.zero_lt_of_lt hIndex) axis hAxis
  positions := by
    intro index hIndex
    rw [size_eq_choices hFew] at hIndex
    exact positions_lt grid.axes hIndex
  tuples := tuples_eq_mapIdx hFew
  bindings := by
    intro tuple hTuple
    have hMember := bindings_mem_product hTuple
    refine (mem_bindingProduct.mp hMember).imp ?_
    rintro axis b ⟨value, hValue, rfl⟩
    exact ⟨rfl, rfl, hValue⟩
  indices := fun _ _ => index_of_getElem?_tuples

/- Axes of different lengths with values of all kinds. -/
def mixedGrid : Grid :=
  { axes :=
      [ { name := "a"
          flag := "fa"
          token := "ta"
          values := [.integer 1, .integer (-2)] },
        { name := "b"
          flag := "fb"
          token := "tb"
          values := [.text "x", .text "y", .text "z"] },
        { name := "c"
          flag := "fc"
          token := "tc"
          values := [.bool true, .bool false] } ] }

theorem lexicographic_product_mixed :
    mixedGrid.choices < twoTo 64 ∧
      mixedGrid.IsLexicographic := by
  have hFew : mixedGrid.choices < twoTo 64 := by decide
  exact ⟨hFew, lexicographic_product mixedGrid hFew⟩

example :
    mixedGrid.get? 7 =
      some
        { index := 7
          bindings :=
            [ ⟨"fa", "ta", .integer (-2)⟩,
              ⟨"fb", "tb", .text "x"⟩,
              ⟨"fc", "tc", .bool false⟩ ] } := by
  decide

/- Sixty-four axes with the same values, told apart by their
   numbers. -/
def wideAxes (values : List AxisValue) : List Axis :=
  (List.range 64).map fun number =>
    { name := toString number
      flag := toString number
      token := toString number
      values }

/- With two values on each axis, there are `2 ^ 64` choices
   but no tuple. -/
example :
    (⟨wideAxes [.bool false, .bool true]⟩ : Grid).size = 0 := by
  decide +kernel

end Grid

end LatencySweep
