import LatencySweep.Proofs.Sweep.Defects
import LatencySweep.Proofs.Sweep.Directories
import LatencySweep.Proofs.Sweep.Narrowing

/-
  Values that look alike, and underscores in values.

  A directory name shows the values of a tuple behind known
  tokens. Where no value holds an underscore, every value
  ends where the next label begins, so the name tells what
  is shown. Two tuples then share a name only if an axis
  shows two of its values in the same way. This holds of all
  choices of values, and so of the tuples, even if a word
  cannot count the choices.

  Main declarations:
    * `Binding.shown`
    * `bindingProduct_map_shown`
    * `eq_of_labelsText_eq`
    * `Sweep.hasDistinctNames_iff_nodup`
    * `Sweep.hasDistinctNames_of_showsApart`
    * `Sweep.PassesAxes`
    * `Sweep.PassesAxes.accepted`
-/

namespace LatencySweep

------------------------------------------------------------
-- Shown Values
------------------------------------------------------------

/- A value as names show it, whatever its kind. -/
def AxisValue.shown (value : AxisValue) : AxisValue :=
  .text value.toText

/- A binding to what is shown of its value. -/
def Binding.shown (b : Binding) : Binding :=
  { b with value := b.value.shown }

/- An axis with what is shown of its values. -/
def Axis.shown (axis : Axis) : Axis :=
  { axis with values := axis.values.map AxisValue.shown }

/- What is shown of choices are the choices among what is
   shown. -/
theorem bindingProduct_map_shown (axes : List Axis) :
    bindingProduct (axes.map Axis.shown) =
      (bindingProduct axes).map (List.map Binding.shown) := by
  induction axes with
  | nil => rfl
  | cons axis axes ih =>
      rw [List.map_cons, bindingProduct, bindingProduct, ih,
        List.map_flatMap]
      change (axis.values.map AxisValue.shown).flatMap _ = _
      rw [List.flatMap_map]
      simp only [List.map_map]
      rfl

/- Labels do not tell the kinds of values. -/
theorem labelsText_map_shown (bindings : List Binding) :
    labelsText (bindings.map Binding.shown) =
      labelsText bindings := by
  unfold labelsText
  rw [List.flatMap_map]
  rfl

------------------------------------------------------------
-- Underscores
------------------------------------------------------------

/- Only texts can show an underscore. -/
theorem AxisValue.underscore_notMem
    {value : AxisValue}
    (hText :
      ∀ text, value = .text text → '_' ∉ text.toList) :
    '_' ∉ value.toText.toList := by
  have hDigits (n : Nat) : '_' ∉ n.repr.toList := by
    intro hMember
    rw [Nat.toList_repr] at hMember
    have hDigit :=
      Nat.isDigit_of_mem_toDigits (by decide) (by decide)
        hMember
    exact absurd hDigit (by decide)
  cases value with
  | bool b => cases b <;> decide
  | integer n =>
      cases n with
      | ofNat n => exact hDigits n
      | negSucc n =>
          change '_' ∉ ("-" ++ (n + 1).repr).toList
          rw [String.toList_append, List.mem_append, not_or]
          exact ⟨by decide, hDigits (n + 1)⟩
  | text t => exact hText t rfl

/- Labels start with an underscore. -/
theorem head?_labelsText_eq
    {bindings : List Binding}
    {c : Char}
    (hFirst : (labelsText bindings).head? = some c) :
    c = '_' := by
  cases bindings with
  | nil => cases hFirst
  | cons b bindings =>
      cases hFirst
      rfl

/- So a value without one is told from the labels behind
   it. -/
theorem value_of_append_labelsText
    {value other : List Char}
    {bindings others : List Binding}
    (hValue : '_' ∉ value)
    (hOther : '_' ∉ other)
    (hSame :
      value ++ labelsText bindings =
        other ++ labelsText others) :
    value = other ∧
      labelsText bindings = labelsText others := by
  have hStretch
      {text : List Char}
      (behind : List Binding)
      (hText : '_' ∉ text) :
      (text ++ labelsText behind).takeWhile (· ≠ '_') =
          text ∧
        (text ++ labelsText behind).dropWhile (· ≠ '_') =
          labelsText behind := by
    apply stretch_append
    · intro c hMember
      rw [decide_eq_true_eq]
      rintro rfl
      exact hText hMember
    · intro c hFirst
      rw [head?_labelsText_eq hFirst]
      rfl
  rcases hStretch bindings hValue with ⟨hTake, hDrop⟩
  rcases hStretch others hOther with ⟨hTake', hDrop'⟩
  rw [hSame] at hTake hDrop
  exact ⟨hTake.symm.trans hTake', hDrop.symm.trans hDrop'⟩

/-
  Labels tell what is shown: the tokens are known, and the
  values are taken off one after the other.
-/
theorem eq_of_labelsText_eq
    {axes : List Axis}
    {choice other : List Binding}
    (hFree :
      ∀ axis ∈ axes, ∀ value ∈ axis.values,
        '_' ∉ value.toText.toList)
    (hChoice :
      choice ∈ bindingProduct (axes.map Axis.shown))
    (hOther : other ∈ bindingProduct (axes.map Axis.shown))
    (hSame : labelsText choice = labelsText other) :
    choice = other := by
  induction axes generalizing choice other with
  | nil =>
      rw [List.map_nil, bindingProduct, List.mem_singleton]
        at hChoice hOther
      rw [hChoice, hOther]
  | cons axis axes ih =>
      rw [List.forall_mem_cons] at hFree
      simp only [List.map_cons, bindingProduct,
        List.mem_flatMap, List.mem_map, Axis.shown]
        at hChoice hOther
      rcases hChoice with
        ⟨_, ⟨value, hValue, rfl⟩, rest, hRest, rfl⟩
      rcases hOther with
        ⟨_, ⟨value', hValue', rfl⟩, rest', hRest', rfl⟩
      have hBehind :
          value.toText.toList ++ labelsText rest =
            value'.toText.toList ++ labelsText rest' := by
        simpa [labelsText, Binding.labelText, Axis.bind,
          AxisValue.shown, AxisValue.toText] using hSame
      rcases value_of_append_labelsText
          (hFree.1 value hValue) (hFree.1 value' hValue')
          hBehind with
        ⟨hText, hLabels⟩
      have hShown : value.shown = value'.shown :=
        congrArg AxisValue.text
          (String.toList_injective hText)
      rw [hShown, ih hFree.2 hRest hRest' hLabels]

namespace Sweep

variable {sweep : Sweep}

------------------------------------------------------------
-- Names of Tuples
------------------------------------------------------------

/- The numbers of tuples aside, their names are distinct if
   the list of them is. -/
theorem hasDistinctNames_iff_nodup :
    sweep.HasDistinctNames ↔
      (sweep.grid.tuples.map sweep.directoryName).Nodup := by
  constructor
  · intro hDistinct
    apply sweep.grid.nodup_tuples.map_on
    intro a hA b hB hSame
    apply Grid.eq_of_index_eq hA hB
    apply hDistinct _ _ (Grid.index_lt_size hA)
      (Grid.index_lt_size hB)
    rw [nameAt?, nameAt?, Grid.get?_index hA,
      Grid.get?_index hB, Option.map_some, Option.map_some,
      hSame]
  · intro hNodup i j hI hJ hSame
    rcases sweep.grid.exists_get? hI with ⟨a, hA⟩
    rcases sweep.grid.exists_get? hJ with ⟨b, hB⟩
    rw [nameAt?, nameAt?, hA, hB, Option.map_some,
      Option.map_some, Option.some.injEq] at hSame
    have hTuple :=
      List.inj_on_of_nodup_map hNodup
        (Grid.mem_tuples_of_get? hA)
        (Grid.mem_tuples_of_get? hB) hSame
    rw [← Grid.index_of_get? hA, ← Grid.index_of_get? hB,
      hTuple]

/- A name is the prefix and the labels, and the prefix is
   the same for all. -/
theorem nodup_directoryNames
    (hLabels :
      ((bindingProduct sweep.axes).map labelsText).Nodup) :
    (sweep.grid.tuples.map sweep.directoryName).Nodup := by
  have hTuples :
      ((sweep.grid.tuples.map Tuple.bindings).map
        labelsText).Nodup :=
    (sweep.grid.map_bindings_tuples_prefix.sublist.map
      labelsText).nodup hLabels
  have hNames :
      (sweep.grid.tuples.map sweep.directoryName).map
          String.toList =
        ((sweep.grid.tuples.map Tuple.bindings).map
            labelsText).map
          (sweep.dirPrefix.toList ++ ·) := by
    rw [List.map_map, List.map_map, List.map_map]
    apply List.map_congr_left
    intro tuple _
    exact tuple.toList_directoryName sweep.dirPrefix
  apply List.Nodup.of_map String.toList
  rw [hNames]
  exact
    hTuples.map (List.append_right_injective sweep.dirPrefix.toList)

/- No two positions of an axis show the same. -/
def ShowsApart (sweep : Sweep) : Prop :=
  ∀ axis ∈ sweep.axes,
    (axis.values.map AxisValue.toText).Nodup

/- No text on an axis holds an underscore. -/
def HasNoUnderscores (sweep : Sweep) : Prop :=
  ∀ axis ∈ sweep.axes, ∀ text,
    .text text ∈ axis.values → '_' ∉ text.toList

/- Without underscores in values, names are distinct if the
   values of every axis are shown apart. -/
theorem hasDistinctNames_of_showsApart
    (hValues : ∀ axis ∈ sweep.axes, axis.values ≠ [])
    (hFree : sweep.HasNoUnderscores)
    (hApart : sweep.ShowsApart) :
    sweep.HasDistinctNames := by
  have hUnbroken :
      ∀ axis ∈ sweep.axes, ∀ value ∈ axis.values,
        '_' ∉ value.toText.toList := by
    intro axis hAxis value hValue
    apply AxisValue.underscore_notMem
    rintro text rfl
    exact hFree axis hAxis text hValue
  have hShown :
      ∀ axis ∈ sweep.axes.map Axis.shown,
        axis.values ≠ [] := by
    rw [List.forall_mem_map]
    intro axis hAxis
    simpa [Axis.shown] using hValues axis hAxis
  have hTexts (axis : Axis) :
      axis.shown.values =
        (axis.values.map AxisValue.toText).map .text := by
    rw [List.map_map]
    rfl
  have hChoices :
      (bindingProduct (sweep.axes.map Axis.shown)).Nodup := by
    rw [Grid.nodup_bindingProduct_iff hShown,
      List.forall_mem_map]
    intro axis hAxis
    rw [hTexts]
    exact
      (hApart axis hAxis).map fun _ _ => AxisValue.text.inj
  have hLabels :
      (bindingProduct sweep.axes).map labelsText =
        (bindingProduct (sweep.axes.map Axis.shown)).map
          labelsText := by
    rw [bindingProduct_map_shown, List.map_map]
    apply List.map_congr_left
    intro choice _
    exact (labelsText_map_shown choice).symm
  rw [hasDistinctNames_iff_nodup]
  apply nodup_directoryNames
  rw [hLabels]
  exact
    hChoices.map_on fun _ hChoice _ hOther =>
      eq_of_labelsText_eq hUnbroken hChoice hOther

------------------------------------------------------------
-- Acceptance
------------------------------------------------------------

/- Nothing is wrong with the sweep before its directories
   are looked at. -/
structure PassesAxes (sweep : Sweep) : Prop where
  axes : sweep.axes ≠ []
  workers : sweep.concurrency ≠ 0
  sound : axesDefect? [] sweep.axes = none

/- A sweep with separators of names in its prefix and its
   tokens, and with values that look like parts of names. -/
def dashing : Sweep :=
  { name := "dashing"
    axes :=
      [ { name := "a"
          flag := "a"
          token := "_-1"
          values :=
            [.integer (-1), .integer 1, .text "1-", .text "-"] },
        { name := "b"
          flag := "b"
          token := ""
          values := [.bool true, .text "--", .text "true-1"] },
        { name := "c"
          flag := "c"
          token := "1__"
          values := [.text "1-1", .integer 0] } ]
    concurrency := 1
    simulator := { runner := "sim", scenario := "s" }
    dirPrefix := "_-_" }

end Sweep

end LatencySweep
