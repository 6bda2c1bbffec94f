import LatencySweep.Proofs.Sweep.Directories
import LatencySweep.Proofs.Sweep.FlagBindings

/-
  The argument of the simulator tells the tuple.

  All tuples of a sweep share a front, and behind it every
  axis adds a known mark and a value without a blank. The
  marks start with a blank, so the values can be read back
  whatever stands in the scenario and the flags. Values that
  are read back alike would give one directory name to two
  tuples, which a well-formed sweep does not do.

  Main declarations:
    * `valuesBehind?`
    * `Sweep.shownValues?`
    * `Sweep.IsValid.shownValues?_eq`
    * `Sweep.TellsTuples`
    * `Sweep.IsValid.tellsTuples`
-/

namespace LatencySweep

------------------------------------------------------------
-- Values behind Marks
------------------------------------------------------------

/- The options of bindings, each behind a blank. -/
def optionsText (bindings : List Binding) : List Char :=
  bindings.flatMap fun b => ' ' :: b.option.toList

/-
  The values of options in a text: behind the beginning of
  an option of each flag, everything up to the next blank.
-/
def valuesBehind? :
    List String → List Char → Option (List (List Char))
  | [], [] => some []
  | [], _ :: _ => none
  | flag :: flags, text =>
      match (' ' :: optionFront flag).isPrefixOf? text with
      | none => none
      | some rest =>
          (valuesBehind? flags
              (rest.dropWhile fun c => !isBlank c)).map
            ((rest.takeWhile fun c => !isBlank c) :: ·)

/- Behind a value there is a blank, or nothing. -/
theorem head?_optionsText
    {bindings : List Binding}
    {c : Char}
    (hFirst : (optionsText bindings).head? = some c) :
    isBlank c = true := by
  cases bindings with
  | nil => cases hFirst
  | cons b bindings =>
      cases hFirst
      decide

/- The values of bindings are read back. -/
theorem valuesBehind?_optionsText
    {bindings : List Binding}
    (hFree :
      ∀ b ∈ bindings, IsBlankFree b.value.toText.toList) :
    valuesBehind? (bindings.map Binding.flag)
        (optionsText bindings) =
      some (bindings.map fun b => b.value.toText.toList) := by
  induction bindings with
  | nil => rfl
  | cons b bindings ih =>
      rw [List.forall_mem_cons] at hFree
      have hText :
          (' ' :: optionFront b.flag) ++
              (b.value.toText.toList ++ optionsText bindings) =
            optionsText (b :: bindings) := by
        simp [optionsText, b.toList_option]
      have hRest :=
        List.isPrefixOf?_eq_some_iff_append_eq.mpr hText
      have hKept :
          ∀ c ∈ b.value.toText.toList,
            (!isBlank c) = true := by
        intro c hMember
        rw [hFree.1 c hMember, Bool.not_false]
      have hEnd :
          ∀ c, (optionsText bindings).head? = some c →
            (!isBlank c) = false := by
        intro c hFirst
        rw [head?_optionsText hFirst, Bool.not_true]
      have hStretch := stretch_append hKept hEnd
      rw [List.map_cons, valuesBehind?, hRest]
      dsimp only
      rw [hStretch.1, hStretch.2, ih hFree.2]
      rfl

namespace Sweep

variable {sweep : Sweep} {tuple : Tuple}

------------------------------------------------------------
-- Reading the Argument
------------------------------------------------------------

/- What the arguments of all tuples begin with. -/
def argumentFront (sweep : Sweep) : String :=
  String.intercalate " "
    (sweep.simulator.scenario ::
      sweep.simulator.fixedFlags.map Simulator.fixedOption)

/- The values that an argument of the sweep shows, in the
   order of the axes. -/
def shownValues?
    (sweep : Sweep)
    (argument : String) : Option (List String) :=
  match sweep.argumentFront.toList.isPrefixOf?
      argument.toList with
  | none => none
  | some rest =>
      (valuesBehind? (sweep.axes.map Axis.flag) rest).map
        (List.map String.ofList)

theorem toList_scenarioArgument
    (sweep : Sweep)
    (tuple : Tuple) :
    (sweep.scenarioArgument tuple).toList =
      sweep.argumentFront.toList ++
        optionsText tuple.bindings := by
  have hOptions :
      (tuple.options.flatMap fun text =>
          " ".toList ++ text.toList) =
        optionsText tuple.bindings := by
    simp [Tuple.options, optionsText, List.flatMap_map]
  unfold scenarioArgument argumentFront
  rw [List.cons_append, toList_intercalate_cons,
    toList_intercalate_cons, List.flatMap_append, hOptions,
    List.append_assoc]

namespace IsValid

variable (hValid : sweep.IsValid)
include hValid

/- Every argument shows the values of its tuple. -/
theorem shownValues?_eq
    (hTuple : tuple ∈ sweep.grid.tuples) :
    sweep.shownValues? (sweep.scenarioArgument tuple) =
      some (tuple.bindings.map fun b => b.value.toText) := by
  have hFlags :=
    Grid.map_flag_of_mem (Grid.bindings_mem_product hTuple)
  have hRest :=
    List.isPrefixOf?_eq_some_iff_append_eq.mpr
      (sweep.toList_scenarioArgument tuple).symm
  have hValues :=
    valuesBehind?_optionsText fun b hBinding =>
      hValid.isBlankFree_value hTuple hBinding
  change _ = sweep.axes.map Axis.flag at hFlags
  rw [shownValues?, hRest, ← hFlags]
  dsimp only
  rw [hValues, Option.map_some, List.map_map]
  simp [Function.comp_def]

/- They are the values found under the flags of the axes. -/
theorem shown_under_flags
    (hTuple : tuple ∈ sweep.grid.tuples) :
    List.Forall₂
      (fun axis text =>
        (tuple.get? axis.flag).map AxisValue.toText =
          some text)
      sweep.axes
      (tuple.bindings.map fun b => b.value.toText) := by
  let shown (flag : String) : Option String :=
    (tuple.get? flag).map AxisValue.toText
  have hFlags :=
    Grid.map_flag_of_mem (Grid.bindings_mem_product hTuple)
  have hShown :
      (sweep.axes.map fun axis => shown axis.flag) =
        tuple.bindings.map fun b => some b.value.toText := by
    calc
      (sweep.axes.map fun axis => shown axis.flag)
        = (sweep.axes.map Axis.flag).map shown := by
          rw [List.map_map]
          rfl
      _ = (tuple.bindings.map Binding.flag).map shown :=
          congrArg (List.map shown) hFlags.symm
      _ = tuple.bindings.map fun b => some b.value.toText := by
          rw [List.map_map]
          apply List.map_congr_left
          intro b hBinding
          have hValue :=
            Tuple.get?_flag (hValid.nodup_binding_flags hTuple)
              hBinding
          simp only [Function.comp_apply, shown, hValue,
            Option.map_some]
  rw [← List.forall₂_eq_eq_eq, List.forall₂_map_left_iff,
    List.forall₂_map_right_iff] at hShown
  rw [List.forall₂_map_right_iff]
  exact hShown

/- Tuples that show the same values are the same, since they
   would have the same directory. -/
theorem eq_of_shown_eq
    {a b : Tuple}
    (hA : a ∈ sweep.grid.tuples)
    (hB : b ∈ sweep.grid.tuples)
    (hShown :
      (a.bindings.map fun b => b.value.toText) =
        b.bindings.map fun b => b.value.toText) :
    a = b := by
  have hLabels :=
    map_label_of_isPeer (hValid.isPeer hA hB) hShown
  apply hValid.eq_of_directoryName_eq hA hB
  unfold directoryName Tuple.directoryName
  rw [hLabels]

end IsValid

------------------------------------------------------------
-- Telling Tuples Apart
------------------------------------------------------------

/-
  The argument of the simulator shows the value of every
  axis to whoever knows the sweep, and no two tuples have
  the same argument.
-/
structure TellsTuples (sweep : Sweep) : Prop where
  values :
    ∀ tuple ∈ sweep.grid.tuples, ∀ dir,
      ∃ argument texts,
        (sweep.simulatorInvocation tuple dir).args[1]? =
            some argument ∧
          sweep.shownValues? argument = some texts ∧
          List.Forall₂
            (fun axis text =>
              (tuple.get? axis.flag).map AxisValue.toText =
                some text)
            sweep.axes texts
  distinct :
    ∀ a ∈ sweep.grid.tuples, ∀ b ∈ sweep.grid.tuples,
      a ≠ b → ∀ dir other,
        (sweep.simulatorInvocation a dir).args[1]? ≠
          (sweep.simulatorInvocation b other).args[1]?

theorem IsValid.tellsTuples
    (hValid : sweep.IsValid) :
    sweep.TellsTuples where
  values := by
    intro tuple hTuple dir
    exact
      ⟨sweep.scenarioArgument tuple, _, rfl,
        hValid.shownValues?_eq hTuple,
        hValid.shown_under_flags hTuple⟩
  distinct := by
    intro a hA b hB hDiffer dir other hSame
    have hArgument :
        sweep.scenarioArgument a = sweep.scenarioArgument b :=
      Option.some.inj hSame
    have hShown := hValid.shownValues?_eq hA
    rw [hArgument, hValid.shownValues?_eq hB] at hShown
    apply hDiffer
    exact
      hValid.eq_of_shown_eq hA hB (Option.some.inj hShown).symm

/- A sweep whose scenario, flags and values are made to be
   mistaken for each other. -/
def cluttered : Sweep :=
  { name := "cluttered"
    axes :=
      [ { name := "a"
          flag := "a"
          token := "ta"
          values := [.integer 1, .text "1=", .text "--a=1"] },
        { name := "b"
          flag := "b=1 --a"
          token := "tb"
          values := [.bool true, .text "--b"] },
        { name := "c"
          flag := ""
          token := "tc"
          values := [.text "=", .integer (-1)] } ]
    concurrency := 1
    simulator :=
      { runner := "sim"
        scenario := " s --a=1  "
        fixedFlags := [("a", "1"), ("b c", "= --a=")] }
    outputRoot := ⟨"runs"⟩
    dirPrefix := "out" }

theorem tellsTuples_cluttered :
    cluttered.IsValid ∧ cluttered.TellsTuples := by
  have hValid : cluttered.IsValid := by decide +kernel
  exact ⟨hValid, hValid.tellsTuples⟩

end Sweep

end LatencySweep
