import LatencySweep.Host.World
import LatencySweep.Sweep.Basic
import LatencySweep.Text.Quoted

/-
  Starting the programs of a sweep.

  Every simulation gets an output directory of its own and
  is then launched in it. What the program exits with is
  reported but not judged here.

  Key definitions include:
    * `DispatchError`
    * `Sweep.simulatorInvocation`
    * `Sweep.prebuildInvocation`
    * `AnalysisStep.invocation`
    * `Sweep.prepare`
    * `launch`
    * `Sweep.dispatch`
-/

namespace LatencySweep

------------------------------------------------------------
-- Errors
------------------------------------------------------------

/- Why a program was not run. -/
inductive DispatchError where
  | createDir (path : Path) (cause : OsError)
  | launch (program : String) (cause : OsError)
  deriving DecidableEq

namespace DispatchError

/- The text of an error. -/
def message : DispatchError → String
  | createDir path cause =>
      "Cannot create the output directory " ++
        s!"{quoted path.text}: {cause}"
  | launch program cause =>
      s!"Cannot launch `{program}`: {cause}"

instance : ToString DispatchError := ⟨message⟩

end DispatchError

------------------------------------------------------------
-- Invocations
------------------------------------------------------------

/- A fixed flag as an option of the simulator. -/
def Simulator.fixedOption (flag : String × String) : String :=
  s!"--{flag.1}={flag.2}"

namespace Sweep

/- The scenario with all its options as one argument. -/
def scenarioArgument
    (sweep : Sweep)
    (tuple : Tuple) : String :=
  String.intercalate " "
    (sweep.simulator.scenario ::
      sweep.simulator.fixedFlags.map Simulator.fixedOption ++
        tuple.options)

/- The call that simulates a tuple in a directory. -/
def simulatorInvocation
    (sweep : Sweep)
    (tuple : Tuple)
    (dir : Path) : Invocation :=
  { program := sweep.simulator.runner
    args :=
      ["run", sweep.scenarioArgument tuple, s!"--cwd={dir}"]
    logPath := dir / sweep.simulator.logFile }

/- The call that builds the simulator before a sweep. -/
def prebuildInvocation (sweep : Sweep) : Invocation :=
  { program := sweep.simulator.runner
    args := []
    logPath := sweep.outputRoot / "prebuild.txt" }

end Sweep

/- The call that analyzes a directory. -/
def AnalysisStep.invocation
    (step : AnalysisStep)
    (dir : Path) : Invocation :=
  { program := step.program
    args := step.args ++ [(dir / step.inputFile).text]
    logPath := dir / step.logFile }

------------------------------------------------------------
-- Preparing and Launching
------------------------------------------------------------

variable {σ : Type}

/- An existing directory may be used. -/
def Sweep.mayReuse
    (sweep : Sweep)
    (dir : Path)
    (tree : FileTree)
    (cause : OsError) : Bool :=
  cause = .alreadyExists && sweep.allowExisting &&
    tree.isDirectory dir

/- Create the output directory of a tuple, or accept one
   that may be used. -/
def Sweep.prepare
    (sweep : Sweep)
    (tuple : Tuple)
    (w : World σ) : Except DispatchError Path × World σ :=
  let dir := sweep.outputDir tuple
  match w.tree.createDirectory dir with
  | .ok tree =>
      let created := { w with tree := tree }.record (.created dir)
      (.ok dir, created.log .debug s!"Output dir: {dir}")
  | .error cause =>
      if sweep.mayReuse dir w.tree cause then
        let reused :=
          w.log .debug
            s!"Reusing output directory {quoted dir.text}"
        (.ok dir, reused.log .debug s!"Output dir: {dir}")
      else (.error (.createDir dir cause), w)

/- Run a program to its end. -/
def launch
    (runner : Runner σ)
    (invocation : Invocation)
    (w : World σ) : Except DispatchError Outcome × World σ :=
  match (w.log .debug invocation.toText).call runner
      invocation with
  | (.error cause, w) =>
      (.error (.launch invocation.program cause), w)
  | (.ok outcome, w) => (.ok outcome, w)

namespace Sweep

/- Simulate a tuple in its prepared directory. -/
def simulate
    (sweep : Sweep)
    (runner : Runner σ)
    (tuple : Tuple)
    (dir : Path)
    (w : World σ) : Except DispatchError Outcome × World σ :=
  launch runner (sweep.simulatorInvocation tuple dir) w

/- Prepare the directory of a tuple and simulate it. -/
def dispatch
    (sweep : Sweep)
    (runner : Runner σ)
    (tuple : Tuple)
    (w : World σ) : Except DispatchError Outcome × World σ :=
  match sweep.prepare tuple w with
  | (.error e, w) => (.error e, w)
  | (.ok dir, w) => sweep.simulate runner tuple dir w

end Sweep

end LatencySweep
