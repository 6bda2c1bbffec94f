import LatencySweep.CommandLine.Failure
import LatencySweep.Number.Digits

/-
  The command that runs a sweep.

  The sweep comes from a file or is built in, and options
  replace parts of it. It is then printed, shown as the
  calls that it would make, or run. A sweep with failed runs
  ends the command with exit code one.

  Key definitions include:
    * `SweepOptions`
    * `SweepOptions.load`
    * `Sweep.dryRun`
    * `sweepCommand`
-/

namespace LatencySweep

------------------------------------------------------------
-- Options
------------------------------------------------------------

/- What is wanted of the command. -/
structure SweepOptions where
  preset : Preset := .mediaSps
  file : Option Path := none
  outputRoot : Option Path := none
  concurrency : Option Nat := none
  onFailure : Option FailurePolicy := none
  noPrebuild : Bool := false
  dryRun : Bool := false
  printConfig : Bool := false
  deriving DecidableEq

namespace SweepOptions

/- A path that is not empty. -/
def path? (text : String) : Option Path :=
  if text = "" then none else some ⟨text⟩

/- Choose a built-in sweep. -/
def setPreset? (text : String) (o : SweepOptions) :
    Option SweepOptions :=
  (Preset.ofName? text).map fun preset => { o with preset }

/- Choose a file with a sweep. -/
def setFile? (text : String) (o : SweepOptions) :
    Option SweepOptions :=
  (path? text).map fun file => { o with file := some file }

/- Choose the directory for all results. -/
def setOutputRoot? (text : String) (o : SweepOptions) :
    Option SweepOptions :=
  (path? text).map fun root =>
    { o with outputRoot := some root }

/- Choose the number of workers. -/
def setConcurrency? (text : String) (o : SweepOptions) :
    Option SweepOptions :=
  (readUInt64? text.toList).map fun n =>
    { o with concurrency := some n }

/- Choose what follows a failure. -/
def setOnFailure? (text : String) (o : SweepOptions) :
    Option SweepOptions :=
  (FailurePolicy.ofName? text).map fun policy =>
    { o with onFailure := some policy }

/- What the command takes. -/
def form : CommandForm SweepOptions where
  program := "sweep"
  options :=
    [ { name := "preset", letter := some 'p'
        effect := .value setPreset? },
      { name := "config", letter := some 'c'
        effect := .value setFile? },
      { name := "output-root", letter := some 'o'
        effect := .value setOutputRoot? },
      { name := "concurrency", letter := some 'j'
        effect := .value setConcurrency? },
      { name := "on-failure"
        effect := .value setOnFailure? },
      { name := "no-prebuild"
        effect := .flag fun o => { o with noPrebuild := true } },
      { name := "dry-run"
        effect := .flag fun o => { o with dryRun := true } },
      { name := "print-config"
        effect :=
          .flag fun o => { o with printConfig := true } },
      { name := "help", letter := some 'h', effect := .help } ]
  places := []
  initial := {}

------------------------------------------------------------
-- Sweeps
------------------------------------------------------------

/- The simulator without its build, if this is wanted. -/
def simulatorFor
    (o : SweepOptions)
    (simulator : Simulator) : Simulator :=
  if o.noPrebuild then { simulator with prebuild := false }
  else simulator

/- A sweep with the parts that options replace. -/
def adjust (o : SweepOptions) (sweep : Sweep) : Sweep :=
  { sweep with
    outputRoot := o.outputRoot.getD sweep.outputRoot
    concurrency := o.concurrency.getD sweep.concurrency
    onFailure := o.onFailure.getD sweep.onFailure
    simulator := o.simulatorFor sweep.simulator }

/- The sweep that is adjusted. -/
def base
    (o : SweepOptions)
    (tree : FileTree) : Except Failure Sweep :=
  match o.file with
  | none => .ok (Sweep.ofPreset o.preset)
  | some path =>
      match Sweep.ofFile path tree with
      | .ok sweep => .ok sweep
      | .error e =>
          .error
            { context := s!"Cannot load the sweep from {path}"
              causes := e.causes }

/- The sweep that is wanted. -/
def load
    (o : SweepOptions)
    (tree : FileTree) : Except Failure Sweep :=
  match o.base tree with
  | .error failure => .error failure
  | .ok base =>
      let sweep := o.adjust base
      match sweep.defect? with
      | none => .ok sweep
      | some defect =>
          .error
            { context := "Invalid sweep configuration"
              causes := [defect.message] }

end SweepOptions

------------------------------------------------------------
-- Dry Runs
------------------------------------------------------------

namespace Sweep

/- The simulations of a sweep in the order of its grid. -/
def plannedInvocations (sweep : Sweep) : List Invocation :=
  sweep.grid.tuples.map fun tuple =>
    sweep.simulatorInvocation tuple (sweep.outputDir tuple)

/- What a dry run shows of a tuple. -/
def dryRunLines
    (sweep : Sweep)
    (tuple : Tuple) : List String :=
  let invocation :=
    sweep.simulatorInvocation tuple (sweep.outputDir tuple)
  [ s!"Output dir: {sweep.directoryName tuple}",
    s!"    {invocation}" ]

/- What a dry run shows. -/
def dryRun (sweep : Sweep) : List String :=
  s!"Total number of simulations: {sweep.grid.size}" ::
    sweep.grid.tuples.flatMap sweep.dryRunLines

------------------------------------------------------------
-- Runs
------------------------------------------------------------

variable {σ : Type}

/- What is shown of a sweep that was run. -/
def summaryLines (summary : SweepSummary) : List String :=
  summary.failures.map RunReport.toText ++ [summary.toText]

/- How the command ends after a sweep. -/
def endOf (summary : SweepSummary) : CommandEnd :=
  if summary.failed = 0 then .done else .runsFailed

/- Run a sweep and show what became of it. -/
def runAndShow
    (sweep : Sweep)
    (runner : Runner σ)
    (w : World σ) : CommandEnd × World σ :=
  match sweep.run runner w with
  | (.ok summary, w) =>
      (endOf summary, w.printAll (summaryLines summary))
  | (.error e, w) =>
      (.failed
        { context := s!"Cannot run the sweep `{sweep.name}`"
          causes := e.causes },
        w)

end Sweep

------------------------------------------------------------
-- The Command
------------------------------------------------------------

variable {σ : Type}

/- Carry out what options ask for. -/
def SweepOptions.perform
    (runner : Runner σ)
    (o : SweepOptions)
    (w : World σ) : CommandEnd × World σ :=
  match o.load w.tree with
  | .error failure => (.failed failure, w)
  | .ok sweep =>
      if o.printConfig then
        (.done, w.print sweep.toJson.pretty)
      else if o.dryRun then (.done, w.printAll sweep.dryRun)
      else sweep.runAndShow runner w

/- The command with its arguments. -/
def sweepCommand
    (runner : Runner σ)
    (args : List String)
    (w : World σ) : CommandEnd × World σ :=
  SweepOptions.form.perform args
    (SweepOptions.perform runner) w

end LatencySweep
