import LatencySweep.Proofs.Path.Join
import LatencySweep.Proofs.Sweep.Directories
import LatencySweep.Sweep.Dispatch

/-
  What different tuples write goes to different paths.

  The directories of two tuples have the same number of
  steps, so the same steps behind both never make the same
  path. All relative names below them are kept apart, and
  with them the log files.

  Main declarations:
    * `Sweep.getLast?_args`
    * `Sweep.IsValid.length_steps`
    * `Sweep.SeparateOutputs`
    * `Sweep.IsValid.separate_outputs`
-/

namespace LatencySweep

namespace Sweep

variable {sweep : Sweep}

/- The simulator is told its directory last. -/
theorem getLast?_args
    (sweep : Sweep)
    (tuple : Tuple)
    (dir : Path) :
    (sweep.simulatorInvocation tuple dir).args.getLast? =
      some ("--cwd=" ++ dir.text) := by
  simp [simulatorInvocation, ToString.toString]

/- Nothing that two tuples write has the same path: neither
   their directories, nor any relative files in them, nor
   the log files there. The simulators are told different
   directories. -/
structure SeparateOutputs
    (sweep : Sweep)
    (a b : Tuple) : Prop where
  texts :
    (sweep.outputDir a).text ≠ (sweep.outputDir b).text
  directories :
    (sweep.outputDir a).components ≠
      (sweep.outputDir b).components
  files :
    ∀ name other,
      Path.isAbsolute ⟨name⟩ = false →
        Path.isAbsolute ⟨other⟩ = false →
          (sweep.outputDir a / name).components ≠
            (sweep.outputDir b / other).components
  simulatorLogs :
    Path.isAbsolute ⟨sweep.simulator.logFile⟩ = false →
      (sweep.simulatorInvocation a
          (sweep.outputDir a)).logPath.components ≠
        (sweep.simulatorInvocation b
          (sweep.outputDir b)).logPath.components
  analysisLogs :
    ∀ step ∈ sweep.analyses,
      Path.isAbsolute ⟨step.logFile⟩ = false →
        (step.invocation
            (sweep.outputDir a)).logPath.components ≠
          (step.invocation
            (sweep.outputDir b)).logPath.components
  workDirs :
    (sweep.simulatorInvocation a
        (sweep.outputDir a)).args.getLast? ≠
      (sweep.simulatorInvocation b
        (sweep.outputDir b)).args.getLast?

namespace IsValid

variable (hValid : sweep.IsValid)
include hValid

/- The directories of all tuples have as many steps. -/
theorem length_steps
    {a b : Tuple}
    (hA : a ∈ sweep.grid.tuples)
    (hB : b ∈ sweep.grid.tuples) :
    (sweep.outputDir a).steps.length =
      (sweep.outputDir b).steps.length := by
  have hLabels := alike_labelsText (hValid.isPeer hA hB)
  have hAlike :=
    hLabels.append
      (sweep.outputFront ++ sweep.dirPrefix.toList)
  rw [← sweep.text_outputDir, ← sweep.text_outputDir]
    at hAlike
  exact hAlike.length_stepsOf

/- Different tuples have different relative files. -/
theorem eq_of_files
    {a b : Tuple}
    (hA : a ∈ sweep.grid.tuples)
    (hB : b ∈ sweep.grid.tuples)
    {name other : String}
    (hName : Path.isAbsolute ⟨name⟩ = false)
    (hOther : Path.isAbsolute ⟨other⟩ = false)
    (hSame :
      (sweep.outputDir a / name).components =
        (sweep.outputDir b / other).components) :
    a = b := by
  have hSteps := Path.steps_eq_of_components_eq hSame
  rw [Path.steps_join _ hName, Path.steps_join _ hOther]
    at hSteps
  exact
    hValid.eq_of_steps_eq hA hB
      (List.append_inj_left hSteps
        (hValid.length_steps hA hB))

/- So have the tuples of any two numbers. -/
theorem separate_outputs
    {i j : Nat}
    (hI : i < sweep.grid.size)
    (hJ : j < sweep.grid.size)
    (hNe : i ≠ j) :
    ∃ a b,
      sweep.grid.get? i = some a ∧
        sweep.grid.get? j = some b ∧
        sweep.SeparateOutputs a b := by
  rcases sweep.grid.exists_get? hI with ⟨a, hGetA⟩
  rcases sweep.grid.exists_get? hJ with ⟨b, hGetB⟩
  have hA := Grid.mem_tuples_of_get? hGetA
  have hB := Grid.mem_tuples_of_get? hGetB
  have hDiffer : a ≠ b := by
    rintro rfl
    exact
      hNe
        ((Grid.index_of_get? hGetA).symm.trans
          (Grid.index_of_get? hGetB))
  have hDirectories :
      (sweep.outputDir a).components ≠
        (sweep.outputDir b).components := by
    intro hSame
    exact
      hDiffer
        (hValid.eq_of_steps_eq hA hB
          (Path.steps_eq_of_components_eq hSame))
  have hTexts :
      (sweep.outputDir a).text ≠
        (sweep.outputDir b).text := by
    intro hSame
    apply hDirectories
    unfold Path.components
    rw [hSame]
  have hFiles
      (name other : String)
      (hName : Path.isAbsolute ⟨name⟩ = false)
      (hOther : Path.isAbsolute ⟨other⟩ = false) :
      (sweep.outputDir a / name).components ≠
        (sweep.outputDir b / other).components :=
    fun hSame =>
      hDiffer (hValid.eq_of_files hA hB hName hOther hSame)
  refine
    ⟨a, b, hGetA, hGetB,
      { texts := hTexts
        directories := hDirectories
        files := hFiles
        simulatorLogs := fun hLog => hFiles _ _ hLog hLog
        analysisLogs := fun _ _ hLog => hFiles _ _ hLog hLog
        workDirs := ?_ }⟩
  rw [getLast?_args, getLast?_args, ne_eq,
    Option.some.injEq, String.append_right_inj]
  exact hTexts

end IsValid

/- A sweep whose prefix is absolute and idle in parts, with
   tokens and values that look like pieces of paths. -/
def awkward : Sweep :=
  { name := "awkward"
    axes :=
      [ { name := "a"
          flag := "a"
          token := "/./x"
          values := [.integer 1, .text "."] },
        { name := "b"
          flag := "b"
          token := ""
          values := [.bool true, .text ".."] } ]
    concurrency := 1
    simulator := { runner := "sim", scenario := "s" }
    outputRoot := ⟨"runs/"⟩
    dirPrefix := "/out//." }

theorem separate_outputs_awkward :
    awkward.IsValid ∧ 0 < awkward.grid.size ∧
      3 < awkward.grid.size ∧
      ∃ a b,
        awkward.grid.get? 0 = some a ∧
          awkward.grid.get? 3 = some b ∧
          awkward.SeparateOutputs a b := by
  have hValid : awkward.IsValid := by decide +kernel
  have hFirst : 0 < awkward.grid.size := by decide
  have hLast : 3 < awkward.grid.size := by decide
  exact
    ⟨hValid, hFirst, hLast,
      hValid.separate_outputs hFirst hLast (by decide)⟩

end Sweep

end LatencySweep
