import LatencySweep.Sweep.Dispatch

/-
  Analyses of what a simulation has written.

  Analyses run one after the other, and one that fails does
  not keep the next from running.

  Key definitions include:
    * `AnalysisResult`
    * `AnalysisStep.run`
    * `runAnalyses`
-/

namespace LatencySweep

/- How an analysis ended, under its name. -/
structure AnalysisResult where
  name : String
  result : Except DispatchError Outcome

namespace AnalysisResult

/- The analysis ran and exited with code zero. -/
def succeeded (r : AnalysisResult) : Bool :=
  match r.result with
  | .ok outcome => outcome.succeeded
  | .error _ => false

/- The warning about an analysis that failed. -/
def warning? (dir : Path) (r : AnalysisResult) :
    Option String :=
  match r.result with
  | .error e => some s!"[{dir}] analysis {r.name}: {e}"
  | .ok outcome =>
      if outcome.succeeded then none
      else
        some s!"[{dir}] analysis {r.name} failed: {outcome}"

end AnalysisResult

variable {σ : Type}

/- A warning, if there is one. -/
def World.warn? (w : World σ) : Option String → World σ
  | none => w
  | some message => w.log .warn message

/- Run one analysis on a directory. -/
def AnalysisStep.run
    (step : AnalysisStep)
    (runner : Runner σ)
    (dir : Path)
    (w : World σ) : AnalysisResult × World σ :=
  let (result, w) := launch runner (step.invocation dir) w
  let r : AnalysisResult := { name := step.name, result }
  (r, w.warn? (r.warning? dir))

/- Run analyses one after the other. -/
def runAnalyses
    (runner : Runner σ)
    (dir : Path) :
    List AnalysisStep → World σ →
      List AnalysisResult × World σ
  | [], w => ([], w)
  | step :: rest, w =>
      let (result, w) := step.run runner dir w
      let (others, w) := runAnalyses runner dir rest w
      (result :: others, w)

end LatencySweep
