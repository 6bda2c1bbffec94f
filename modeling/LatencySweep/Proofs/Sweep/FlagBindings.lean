import LatencySweep.Proofs.Sweep.Defects
import LatencySweep.Sweep.Dispatch

/-
  When the simulator is told every swept flag once.

  The simulator is given one argument, which it cuts into
  words. A word binds a flag if it begins like an option of
  the flag. A sweep is well-formed although its scenario or
  a fixed flag may bind a swept flag as well, a flag may be
  cut at a blank, and one may begin like another. Every
  tuple is told without doubt if none of this is so, and no
  tuple is otherwise.

  Main declarations:
    * `optionFront_prefix_iff`
    * `Tuple.get?_flag`
    * `Sweep.words_scenarioArgument`
    * `Sweep.BindsFlags`
    * `Sweep.HasClearFlags`
    * `Sweep.IsValid.bindsFlags_iff`
-/

namespace LatencySweep

------------------------------------------------------------
-- Options of Flags
------------------------------------------------------------

/- What an option of a flag begins with. -/
def optionFront (flag : String) : List Char :=
  '-' :: '-' :: (flag.toList ++ ['='])

/- The words that are options of a flag. -/
def optionsOf
    (flag : String)
    (texts : List (List Char)) : List (List Char) :=
  texts.filter (optionFront flag).isPrefixOf

/- Only a flag with a `=` in it begins like another. -/
theorem optionFront_prefix_iff
    {flag other : String} :
    optionFront flag <+: optionFront other ↔
      flag = other ∨
        flag.toList ++ ['='] <+: other.toList := by
  unfold optionFront
  rw [List.cons_prefix_cons, List.cons_prefix_cons,
    List.prefix_concat_iff]
  simp [String.toList_inj]

/- Options of different flags are told apart by their
   beginnings, unless one flag begins like the other. -/
theorem prefix_of_optionFront_prefix
    {flag other : String}
    {value : List Char}
    (hOption :
      optionFront flag <+: optionFront other ++ value)
    (hOther : flag ≠ other) :
    flag.toList ++ ['='] <+: other.toList ∨
      other.toList ++ ['='] <+: flag.toList := by
  have hSelf :
      optionFront other <+: optionFront other ++ value :=
    List.prefix_append _ _
  rcases List.prefix_or_prefix_of_prefix hOption hSelf with
    hFront | hFront
  · rcases optionFront_prefix_iff.mp hFront with
      hSame | hPrefix
    · exact absurd hSame hOther
    · exact Or.inl hPrefix
  · rcases optionFront_prefix_iff.mp hFront with
      hSame | hPrefix
    · exact absurd hSame.symm hOther
    · exact Or.inr hPrefix

theorem isBlankFree_optionFront_iff (flag : String) :
    IsBlankFree (optionFront flag) ↔
      IsBlankFree flag.toList := by
  unfold IsBlankFree optionFront
  simp only [List.forall_mem_cons, List.forall_mem_append]
  simp [show isBlank '-' = false by decide,
    show isBlank '=' = false by decide]

/- What passes a test is a single item just if it is the
   only one. -/
theorem filter_eq_singleton_iff
    {α : Type}
    {test : α → Bool}
    {front back : List α}
    {item : α}
    (hItem : test item = true) :
    (front ++ item :: back).filter test = [item] ↔
      ∀ other ∈ front ++ back, test other = false := by
  have hOthers :
      (front ++ item :: back).filter test = [item] ↔
        (front ++ back).filter test = [] := by
    rw [List.filter_append, List.filter_append,
      List.filter_cons_of_pos hItem]
    cases front.filter test <;> simp
  rw [hOthers, List.filter_eq_nil_iff]
  simp only [Bool.not_eq_true]

------------------------------------------------------------
-- Bindings of a Tuple
------------------------------------------------------------

theorem Binding.toList_option (b : Binding) :
    b.option.toList =
      optionFront b.flag ++ b.value.toText.toList := by
  simp [option, optionFront, ToString.toString]

/- If no flag is bound twice, the other bindings are those
   of other flags. -/
theorem mem_others_iff
    {bindings front back : List Binding}
    {b other : Binding}
    (hFlags : (bindings.map Binding.flag).Nodup)
    (hSplit : bindings = front ++ b :: back) :
    other ∈ front ++ back ↔
      other ∈ bindings ∧ other.flag ≠ b.flag := by
  rw [hSplit, List.map_append, List.map_cons,
    List.nodup_middle, ← List.map_append, List.nodup_cons]
    at hFlags
  rw [hSplit, List.perm_middle.mem_iff, List.mem_cons]
  constructor
  · intro hOther
    refine ⟨Or.inr hOther, ?_⟩
    intro hSame
    apply hFlags.1
    rw [← hSame]
    exact List.mem_map_of_mem hOther
  · rintro ⟨rfl | hOther, hFlag⟩
    · exact absurd rfl hFlag
    · exact hOther

/- A value is found under the flag that it is bound to if
   no other one is. -/
theorem Tuple.get?_flag
    {tuple : Tuple}
    {b : Binding}
    (hFlags : (tuple.bindings.map Binding.flag).Nodup)
    (hBinding : b ∈ tuple.bindings) :
    tuple.get? b.flag = some b.value := by
  rcases List.append_of_mem hBinding with
    ⟨front, back, hSplit⟩
  have hFound :
      tuple.bindings.find? (fun other => other.flag = b.flag) =
        some b := by
    rw [List.find?_eq_some_iff_append]
    refine ⟨by simp, front, back, hSplit, ?_⟩
    intro other hOther
    have hApart :=
      (mem_others_iff hFlags hSplit).mp
        (List.mem_append_left _ hOther)
    simpa using hApart.2
  rw [get?, hFound, Option.map_some]

/- Among the words of the argument, a single one binds the
   flag, and it does so to the value of the tuple. -/
def Tuple.BindsOnce
    (tuple : Tuple)
    (flag argument : String) : Prop :=
  ∃ b ∈ tuple.bindings,
    b.flag = flag ∧ tuple.get? flag = some b.value ∧
      optionsOf flag (words argument.toList) =
        [optionFront flag ++ b.value.toText.toList]

/- A flag is bound by a word, so it is not cut. -/
theorem Tuple.BindsOnce.isBlankFree
    {tuple : Tuple}
    {flag argument : String}
    (hOnce : tuple.BindsOnce flag argument) :
    IsBlankFree flag.toList := by
  rcases hOnce with ⟨b, _, _, _, hOptions⟩
  have hWord :
      optionFront flag ++ b.value.toText.toList ∈
        words argument.toList := by
    apply List.mem_of_mem_filter
    rw [← optionsOf, hOptions]
    exact List.mem_singleton_self _
  have hFree := isBlankFree_of_mem_words hWord
  rw [← isBlankFree_optionFront_iff]
  intro c hMember
  exact hFree c (List.mem_append_left _ hMember)

namespace Sweep

variable {sweep : Sweep} {tuple : Tuple}

------------------------------------------------------------
-- Words of the Argument
------------------------------------------------------------

/- The words that every tuple of the sweep is told with. -/
def fixedWords (sweep : Sweep) : List (List Char) :=
  (sweep.simulator.scenario ::
      sweep.simulator.fixedFlags.map
        Simulator.fixedOption).flatMap
    fun text => words text.toList

/- The words of the argument are those and the words of the
   options of the tuple. -/
theorem words_scenarioArgument
    (sweep : Sweep)
    (tuple : Tuple) :
    words (sweep.scenarioArgument tuple).toList =
      sweep.fixedWords ++
        tuple.bindings.flatMap
          fun b => words b.option.toList := by
  unfold scenarioArgument fixedWords Tuple.options
  rw [words_intercalate, List.flatMap_append,
    List.flatMap_map]

namespace IsValid

variable (hValid : sweep.IsValid)
include hValid

theorem nodup_flags : (sweep.axes.map Axis.flag).Nodup :=
  (defect?_eq_none_iff.mp hValid).flags

variable (hTuple : tuple ∈ sweep.grid.tuples)
include hTuple

theorem isBlankFree_value
    {b : Binding}
    (hBinding : b ∈ tuple.bindings) :
    IsBlankFree b.value.toText.toList := by
  rcases Grid.exists_axis_of_mem
      (Grid.bindings_mem_product hTuple) hBinding with
    ⟨axis, hAxis, value, hValue, rfl⟩
  exact
    AxisValue.isBlankFree
      (hValid.values_valid axis hAxis value hValue)

/- Without blanks in the flags, every option is a word. -/
theorem words_options
    (hFlags :
      ∀ axis ∈ sweep.axes, IsBlankFree axis.flag.toList) :
    (tuple.bindings.flatMap fun b =>
        words b.option.toList) =
      tuple.bindings.map fun b => b.option.toList := by
  rw [List.map_eq_flatMap]
  apply List.flatMap_congr
  intro b hBinding
  rcases Grid.exists_axis_of_mem
      (Grid.bindings_mem_product hTuple) hBinding with
    ⟨axis, hAxis, value, hValue, rfl⟩
  have hFront :=
    (isBlankFree_optionFront_iff axis.flag).mpr
      (hFlags axis hAxis)
  have hText := hValid.isBlankFree_value hTuple hBinding
  apply words_of_blankFree
  · rw [Binding.toList_option]
    exact List.cons_ne_nil _ _
  · rw [Binding.toList_option]
    intro c hMember
    rcases List.mem_append.mp hMember with hIn | hIn
    · exact hFront c hIn
    · exact hText c hIn

end IsValid

------------------------------------------------------------
-- Clear Flags
------------------------------------------------------------

/- The argument that the simulator is given binds every
   swept flag once. -/
def BindsFlags (sweep : Sweep) (tuple : Tuple) : Prop :=
  ∀ dir, ∃ argument,
    (sweep.simulatorInvocation tuple dir).args[1]? =
        some argument ∧
      ∀ axis ∈ sweep.axes, tuple.BindsOnce axis.flag argument

/-
  No flag is cut at a blank, none begins like an option of
  another, and no word that all tuples share binds a swept
  flag.
-/
structure HasClearFlags (sweep : Sweep) : Prop where
  blanks :
    ∀ axis ∈ sweep.axes, IsBlankFree axis.flag.toList
  axes :
    ∀ axis ∈ sweep.axes, ∀ other ∈ sweep.axes,
      ¬ axis.flag.toList ++ ['='] <+: other.flag.toList
  fixed :
    ∀ axis ∈ sweep.axes, ∀ word ∈ sweep.fixedWords,
      ¬ optionFront axis.flag <+: word

namespace IsValid

variable (hValid : sweep.IsValid)
variable (hTuple : tuple ∈ sweep.grid.tuples)
include hValid hTuple

theorem nodup_binding_flags :
    (tuple.bindings.map Binding.flag).Nodup := by
  rw [Grid.map_flag_of_mem (Grid.bindings_mem_product hTuple)]
  exact hValid.nodup_flags

/- An option is the only one of its flag just if neither a
   fixed word nor the option of another flag begins like
   it. -/
theorem optionsOf_eq_iff
    (hBlanks :
      ∀ axis ∈ sweep.axes, IsBlankFree axis.flag.toList)
    {b : Binding}
    (hBinding : b ∈ tuple.bindings) :
    optionsOf b.flag
          (words (sweep.scenarioArgument tuple).toList) =
        [b.option.toList] ↔
      (∀ word ∈ sweep.fixedWords,
          ¬ optionFront b.flag <+: word) ∧
        ∀ other ∈ tuple.bindings, other.flag ≠ b.flag →
          ¬ optionFront b.flag <+: other.option.toList := by
  rcases List.append_of_mem hBinding with
    ⟨front, back, hSplit⟩
  have hSelf :
      (optionFront b.flag).isPrefixOf b.option.toList =
        true := by
    rw [List.isPrefixOf_iff_prefix, b.toList_option]
    exact List.prefix_append _ _
  have hNot (word : List Char) :
      (optionFront b.flag).isPrefixOf word = false ↔
        ¬ optionFront b.flag <+: word := by
    rw [← List.isPrefixOf_iff_prefix, Bool.not_eq_true]
  have hWords :
      words (sweep.scenarioArgument tuple).toList =
        sweep.fixedWords ++
            front.map (fun other => other.option.toList) ++
          b.option.toList ::
            back.map fun other => other.option.toList := by
    rw [words_scenarioArgument,
      hValid.words_options hTuple hBlanks, hSplit,
      List.map_append, List.map_cons, List.append_assoc]
  have hOthers (other : Binding) :
      other ∈ front ++ back ↔
        other ∈ tuple.bindings ∧ other.flag ≠ b.flag :=
    mem_others_iff (hValid.nodup_binding_flags hTuple) hSplit
  rw [optionsOf, hWords, filter_eq_singleton_iff hSelf,
    List.append_assoc, ← List.map_append,
    List.forall_mem_append, List.forall_mem_map]
  simp only [hNot, hOthers, and_imp]

/- So a flag is bound once just if no other word begins like
   an option of it. -/
theorem bindsOnce_iff
    (hBlanks :
      ∀ axis ∈ sweep.axes, IsBlankFree axis.flag.toList)
    {axis : Axis}
    (hAxis : axis ∈ sweep.axes) :
    tuple.BindsOnce axis.flag
        (sweep.scenarioArgument tuple) ↔
      (∀ word ∈ sweep.fixedWords,
          ¬ optionFront axis.flag <+: word) ∧
        ∀ other ∈ tuple.bindings, other.flag ≠ axis.flag →
          ¬ optionFront axis.flag <+: other.option.toList := by
  constructor
  · rintro ⟨b, hBinding, hFlag, _, hOptions⟩
    rw [← hFlag] at hOptions ⊢
    rw [← b.toList_option] at hOptions
    exact
      (hValid.optionsOf_eq_iff hTuple hBlanks hBinding).mp
        hOptions
  · intro hAlone
    rcases Grid.exists_binding_of_mem
        (Grid.bindings_mem_product hTuple) hAxis with
      ⟨b, hBinding, hFlag⟩
    rw [← hFlag] at hAlone ⊢
    refine ⟨b, hBinding, rfl, ?_, ?_⟩
    · exact
        Tuple.get?_flag (hValid.nodup_binding_flags hTuple)
          hBinding
    · rw [← b.toList_option]
      exact
        (hValid.optionsOf_eq_iff hTuple hBlanks hBinding).mpr
          hAlone

/- If every flag is bound once, no flag begins like an
   option of another, since both have an option. -/
theorem hasClearFlags
    (hOnce :
      ∀ axis ∈ sweep.axes,
        tuple.BindsOnce axis.flag
          (sweep.scenarioArgument tuple)) :
    sweep.HasClearFlags := by
  have hBlanks :
      ∀ axis ∈ sweep.axes, IsBlankFree axis.flag.toList :=
    fun axis hAxis => (hOnce axis hAxis).isBlankFree
  have hAlone (axis : Axis) (hAxis : axis ∈ sweep.axes) :=
    (hValid.bindsOnce_iff hTuple hBlanks hAxis).mp
      (hOnce axis hAxis)
  refine ⟨hBlanks, ?_, fun axis hAxis => (hAlone axis hAxis).1⟩
  intro axis hAxis other hOther hPrefix
  rcases Grid.exists_binding_of_mem
      (Grid.bindings_mem_product hTuple) hOther with
    ⟨b, hBinding, hFlag⟩
  rw [← hFlag] at hPrefix
  apply (hAlone axis hAxis).2 b hBinding
  · intro hSame
    have hLength := hPrefix.length_le
    rw [hSame, List.length_append, List.length_singleton]
      at hLength
    exact Nat.not_succ_le_self _ hLength
  · rw [b.toList_option]
    exact
      (optionFront_prefix_iff.mpr (Or.inr hPrefix)).trans
        (List.prefix_append _ _)

/- Clear flags are bound once. -/
theorem bindsOnce
    (hClear : sweep.HasClearFlags)
    {axis : Axis}
    (hAxis : axis ∈ sweep.axes) :
    tuple.BindsOnce axis.flag
      (sweep.scenarioArgument tuple) := by
  rw [hValid.bindsOnce_iff hTuple hClear.blanks hAxis]
  refine ⟨hClear.fixed axis hAxis, ?_⟩
  intro b hBinding hDiffer hFront
  rcases Grid.exists_axis_of_mem
      (Grid.bindings_mem_product hTuple) hBinding with
    ⟨other, hOther, value, _, rfl⟩
  rw [Binding.toList_option] at hFront
  rcases prefix_of_optionFront_prefix hFront hDiffer.symm with
    hPrefix | hPrefix
  · exact hClear.axes axis hAxis other hOther hPrefix
  · exact hClear.axes other hOther axis hAxis hPrefix

/- Every tuple is told without doubt if the flags are clear,
   and none is otherwise. -/
theorem bindsFlags_iff :
    sweep.BindsFlags tuple ↔ sweep.HasClearFlags := by
  constructor
  · intro hBinds
    rcases hBinds ⟨""⟩ with ⟨argument, hArgument, hOnce⟩
    cases hArgument
    exact hValid.hasClearFlags hTuple hOnce
  · intro hClear dir
    refine ⟨sweep.scenarioArgument tuple, rfl, ?_⟩
    intro axis hAxis
    exact hValid.bindsOnce hTuple hClear hAxis

end IsValid

/- Flags and texts that look alike. -/
def lookalikeFlags : Sweep :=
  { name := "lookalike flags"
    axes :=
      [ { name := "a"
          flag := "a"
          token := "a"
          values := [.text "--b=2", .text "a=1"] },
        { name := "b"
          flag := "b"
          token := "b"
          values := [.integer 2, .text "=", .bool true] },
        { name := "empty"
          flag := ""
          token := "c"
          values := [.text "a"] } ]
    concurrency := 1
    simulator :=
      { runner := "sim"
        scenario := "s -a=2 --a"
        fixedFlags := [("ab", "3"), ("c d", "b=1 --bb=")] }
    outputRoot := ⟨"runs"⟩
    dirPrefix := "out" }

theorem bindsFlags_lookalike :
    lookalikeFlags.IsValid ∧
      ∀ tuple ∈ lookalikeFlags.grid.tuples,
        lookalikeFlags.BindsFlags tuple := by
  have hValid : lookalikeFlags.IsValid := by
    decide +kernel
  have hClear : lookalikeFlags.HasClearFlags :=
    { blanks := by decide
      axes := by decide
      fixed := by decide }
  exact
    ⟨hValid, fun tuple hTuple =>
      (hValid.bindsFlags_iff hTuple).mpr hClear⟩

/- A sweep of a flag that all simulations are given, too. -/
def doubled : Sweep :=
  { name := "doubled"
    axes :=
      [ { name := "a"
          flag := "a"
          token := "t"
          values := [.integer 1] } ]
    concurrency := 1
    simulator :=
      { runner := "sim"
        scenario := "s"
        fixedFlags := [("a", "2")] }
    outputRoot := ⟨"runs"⟩
    dirPrefix := "out" }

/- The sweep is accepted, although the simulator is told two
   values of the flag. -/
theorem doubled_binds_twice :
    doubled.IsValid ∧
      ∃ tuple ∈ doubled.grid.tuples,
        ¬ doubled.BindsFlags tuple ∧
          optionsOf "a"
              (words (doubled.scenarioArgument tuple).toList) =
            ["--a=2".toList, "--a=1".toList] := by
  have hValid : doubled.IsValid := by decide +kernel
  let tuple : Tuple :=
    { index := 0
      bindings := [⟨"a", "t", .integer 1⟩] }
  have hTuple : tuple ∈ doubled.grid.tuples := by
    decide +kernel
  have hOptions :
      optionsOf "a"
          (words (doubled.scenarioArgument tuple).toList) =
        ["--a=2".toList, "--a=1".toList] := by
    decide +kernel
  refine ⟨hValid, tuple, hTuple, ?_, hOptions⟩
  intro hBinds
  rcases hBinds doubled.outputRoot with
    ⟨argument, hArgument, hOnce⟩
  cases hArgument
  rcases hOnce _ List.mem_cons_self with
    ⟨b, _, _, _, hSingle⟩
  have hLength := congrArg List.length hSingle
  rw [hOptions] at hLength
  cases hLength

end Sweep

end LatencySweep
