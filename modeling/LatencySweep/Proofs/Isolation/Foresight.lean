import LatencySweep.Proofs.Pool.Events

/-
  What can be foreseen of a tuple.

  If a runner answers an invocation in the same way whenever
  it is called, the answers and the verdict on the directory
  of a tuple tell its report, up to the time that programs
  took, and the invocations that are made for it.

  Main declarations:
    * `RunReport.untimed`
    * `Sweep.MayCall`
    * `Runner.Answers`
    * `Sweep.foretold`
    * `Sweep.foretoldCalls`
-/

namespace LatencySweep

variable {σ : Type}

------------------------------------------------------------
-- Results without Times
------------------------------------------------------------

/- The outcome without the time that the program took. -/
def Outcome.untimed (outcome : Outcome) : Outcome :=
  { outcome with duration := ⟨0⟩ }

/- A result without the time that the program took. -/
def untimedResult {ε : Type} :
    Except ε Outcome → Except ε Outcome :=
  Except.map Outcome.untimed

def AnalysisResult.untimed
    (r : AnalysisResult) : AnalysisResult :=
  { r with result := untimedResult r.result }

def RunReport.untimed (report : RunReport) : RunReport :=
  { report with
    simulator := report.simulator.map untimedResult
    analyses := report.analyses.map AnalysisResult.untimed }

def SweepSummary.untimed
    (summary : SweepSummary) : SweepSummary :=
  { reports := summary.reports.map RunReport.untimed }

def SweepError.untimed : SweepError → SweepError
  | prebuild outcome log => prebuild outcome.untimed log
  | e => e

/- The result of a sweep without times. -/
def untimedEnd :
    Except SweepError SweepSummary →
      Except SweepError SweepSummary
  | .error e => .error e.untimed
  | .ok summary => .ok summary.untimed

------------------------------------------------------------
-- Calls of a Sweep
------------------------------------------------------------

namespace Sweep

/- The invocations that may be made for a tuple. -/
def invocationsOf
    (sweep : Sweep)
    (tuple : Tuple) : List Invocation :=
  sweep.simulatorInvocation tuple (sweep.outputDir tuple) ::
    sweep.analyses.map
      (AnalysisStep.invocation · (sweep.outputDir tuple))

/- The sweep makes such an invocation, if it is wanted. -/
def MayCall
    (sweep : Sweep)
    (invocation : Invocation) : Prop :=
  invocation = sweep.prebuildInvocation ∨
    ∃ tuple ∈ sweep.grid.tuples,
      invocation ∈ sweep.invocationsOf tuple

variable {sweep : Sweep} {tuple : Tuple}

theorem mayCall_simulator
    (hTuple : tuple ∈ sweep.grid.tuples) :
    sweep.MayCall
      (sweep.simulatorInvocation tuple
        (sweep.outputDir tuple)) :=
  Or.inr ⟨tuple, hTuple, List.mem_cons_self⟩

theorem mayCall_analysis
    (hTuple : tuple ∈ sweep.grid.tuples)
    {step : AnalysisStep}
    (hStep : step ∈ sweep.analyses) :
    sweep.MayCall
      (step.invocation (sweep.outputDir tuple)) :=
  Or.inr
    ⟨tuple, hTuple,
      List.mem_cons_of_mem _ (List.mem_map_of_mem hStep)⟩

theorem stepsAfter_subset
    (sweep : Sweep)
    (outcome : Outcome) :
    sweep.stepsAfter outcome ⊆ sweep.analyses := by
  unfold stepsAfter
  split
  · exact List.Subset.refl _
  · exact List.nil_subset _

end Sweep

------------------------------------------------------------
-- Answers
------------------------------------------------------------

/- The runner gives these answers to the sweep, up to times,
   wherever and whenever it is called. -/
def Runner.Answers
    (runner : Runner σ)
    (sweep : Sweep)
    (answer : Invocation → Except OsError Outcome) : Prop :=
  ∀ invocation,
    sweep.MayCall invocation →
      ∀ tree programs,
        untimedResult
            (runner.run invocation tree programs).result =
          answer invocation

/- What a launch is told by such answers. -/
def foretoldLaunch
    (answer : Invocation → Except OsError Outcome)
    (invocation : Invocation) : Except DispatchError Outcome :=
  (answer invocation).mapError (.launch invocation.program)

variable {runner : Runner σ} {sweep : Sweep}
variable {answer : Invocation → Except OsError Outcome}

theorem untimedResult_mapError
    {ε ε' : Type}
    (f : ε → ε')
    (result : Except ε Outcome) :
    untimedResult (result.mapError f) =
      (untimedResult result).mapError f := by
  cases result <;> rfl

theorem Runner.Answers.launch
    (hAnswers : runner.Answers sweep answer)
    {invocation : Invocation}
    (hCall : sweep.MayCall invocation)
    (w : World σ) :
    untimedResult (launch runner invocation w).1 =
      foretoldLaunch answer invocation := by
  rw [launch_fst, untimedResult_mapError, World.answer,
    hAnswers invocation hCall, foretoldLaunch]

/- The result of an analysis, foretold by the answers. -/
def AnalysisStep.foretold
    (answer : Invocation → Except OsError Outcome)
    (dir : Path)
    (step : AnalysisStep) : AnalysisResult :=
  { name := step.name
    result := foretoldLaunch answer (step.invocation dir) }

theorem Runner.Answers.run
    (hAnswers : runner.Answers sweep answer)
    {step : AnalysisStep}
    {dir : Path}
    (hCall : sweep.MayCall (step.invocation dir))
    (w : World σ) :
    (step.run runner dir w).1.untimed =
      step.foretold answer dir := by
  rw [AnalysisStep.run_fst, AnalysisResult.untimed,
    AnalysisStep.foretold, hAnswers.launch hCall]

------------------------------------------------------------
-- Tuples
------------------------------------------------------------

namespace Sweep

/- The report on a tuple, foretold by the answers and the
   verdict on its directory. -/
def foretold
    (sweep : Sweep)
    (answer : Invocation → Except OsError Outcome)
    (verdict : Except DispatchError Path)
    (tuple : Tuple) : RunReport :=
  match verdict with
  | .error e => sweep.report tuple (.error e) []
  | .ok dir =>
      match foretoldLaunch answer
          (sweep.simulatorInvocation tuple dir) with
      | .error e => sweep.report tuple (.error e) []
      | .ok outcome =>
          sweep.report tuple (.ok outcome)
            ((sweep.stepsAfter outcome).map
              (AnalysisStep.foretold answer
                (sweep.outputDir tuple)))

/- The invocations for a tuple, foretold in the same way. -/
def foretoldCalls
    (sweep : Sweep)
    (answer : Invocation → Except OsError Outcome)
    (verdict : Except DispatchError Path)
    (tuple : Tuple) : List Invocation :=
  match verdict with
  | .error _ => []
  | .ok dir =>
      sweep.simulatorInvocation tuple dir ::
        match foretoldLaunch answer
            (sweep.simulatorInvocation tuple dir) with
        | .error _ => []
        | .ok outcome =>
            (sweep.stepsAfter outcome).map
              (AnalysisStep.invocation ·
                (sweep.outputDir tuple))

end Sweep

end LatencySweep
