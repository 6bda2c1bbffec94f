import LatencySweep.Host.Path
import LatencySweep.Sweep.Grid

/-
  Descriptions of parameter sweeps.

  A sweep names the axes, the simulator that is run once
  for every tuple of values, and the analyses of what the
  simulator has written.

  Key definitions include:
    * `FailurePolicy`
    * `Simulator`
    * `AnalysisStep`
    * `Sweep`
    * `Preset`
    * `Sweep.ofPreset`
-/

namespace LatencySweep

------------------------------------------------------------
-- Failure Policies
------------------------------------------------------------

/-
  What a failed simulation changes: nothing, it is not
  analyzed, or the sweep starts no further simulation
  either.
-/
inductive FailurePolicy where
  | ignore
  | skipAnalysis
  | abort
  deriving DecidableEq

namespace FailurePolicy

/- Every policy. -/
def all : List FailurePolicy :=
  [ignore, skipAnalysis, abort]

/- The name of a policy. -/
def name : FailurePolicy → String
  | ignore => "ignore"
  | skipAnalysis => "skip-analysis"
  | abort => "abort"

/- The policy of a name. -/
def ofName? (text : String) : Option FailurePolicy :=
  all.find? fun policy => policy.name = text

theorem ofName?_name (policy : FailurePolicy) :
    ofName? policy.name = some policy := by
  cases policy <;> decide

end FailurePolicy

------------------------------------------------------------
-- Programs
------------------------------------------------------------

/-
  How the simulator is run: the program, the scenario, flags
  of every run, and the log file in the output directory. A
  simulator that has to be built is called once before.
-/
structure Simulator where
  runner : String
  scenario : String
  fixedFlags : List (String × String) := []
  logFile : String := "output.txt"
  prebuild : Bool := false
  deriving DecidableEq

/- A program that is run on a file of every output
   directory, behind the arguments given here. -/
structure AnalysisStep where
  name : String
  program : String
  args : List String := []
  inputFile : String
  logFile : String := "analysis.txt"
  deriving DecidableEq

------------------------------------------------------------
-- Sweeps
------------------------------------------------------------

/- A parameter sweep. -/
structure Sweep where
  name : String
  axes : List Axis
  concurrency : Nat
  simulator : Simulator
  analyses : List AnalysisStep := []
  outputRoot : Path := ⟨"."⟩
  dirPrefix : String := "output"
  onFailure : FailurePolicy := .ignore
  allowExisting : Bool := false
  deriving DecidableEq

namespace Sweep

/- The grid of a sweep. -/
def grid (sweep : Sweep) : Grid :=
  { axes := sweep.axes }

/- The name of a tuple's output directory. -/
def directoryName (sweep : Sweep) (tuple : Tuple) : String :=
  tuple.directoryName sweep.dirPrefix

/- The output directory of a tuple. -/
def outputDir (sweep : Sweep) (tuple : Tuple) : Path :=
  sweep.outputRoot / sweep.directoryName tuple

end Sweep

------------------------------------------------------------
-- Presets
------------------------------------------------------------

/- The sweeps that are built in: with or without the flags
   of semi-persistent scheduling for media. -/
inductive Preset where
  | mediaSps
  | static
  deriving DecidableEq

namespace Preset

/- Every preset. -/
def all : List Preset :=
  [mediaSps, static]

/- The name of a preset. -/
def name : Preset → String
  | mediaSps => "media-sps"
  | static => "static"

/- The preset of a name. -/
def ofName? (text : String) : Option Preset :=
  all.find? fun preset => preset.name = text

/- The axes of every preset. -/
def commonAxes : List Axis :=
  [ { name := "numerology"
      flag := "slNumerology"
      token := "slNum"
      values := [.integer 0, .integer 2] },
    { name := "mcs"
      flag := "slMcs"
      token := "mcs"
      values := [.integer 14] },
    { name := "sensing"
      flag := "enableSensing"
      token := "sensing"
      values := [.bool false, .bool true] },
    { name := "resource reservation interval"
      flag := "rri"
      token := "rri"
      values := [.integer 0] },
    { name := "max transmissions"
      flag := "maxNTx"
      token := "maxNTx"
      values := [.integer 1, .integer 4, .integer 8] },
    { name := "harq feedback"
      flag := "harqFeedback"
      token := "harqF"
      values := [.bool false] } ]

/- The axes of semi-persistent scheduling for media. -/
def mediaAxes : List Axis :=
  [ { name := "off-network media sps"
      flag := "offNetMediaSps"
      token := "offNetMediaSps"
      values := [.bool false, .bool true] },
    { name := "relay media sps"
      flag := "relayMediaSps"
      token := "relayMediaSps"
      values := [.bool true, .bool false] } ]

/- The axes of a preset. -/
def axes : Preset → List Axis
  | mediaSps => commonAxes ++ mediaAxes
  | static => commonAxes

/- How many simulations of a preset run at a time. -/
def concurrency : Preset → Nat
  | mediaSps => 12
  | static => 6

/- The simulator of every preset. -/
def simulator : Simulator :=
  { runner := "./ns3"
    scenario := "nr-mcptt-operational-modes-static"
    fixedFlags :=
      [ ("minNumAccess", "1000"),
        ("RngRun", "2"),
        ("showProgress", "true") ]
    prebuild := true }

/- The analyses of every preset. -/
def analyses : List AnalysisStep :=
  [ { name := "access-time"
      program := "python3"
      args := ["mcptt-operational-modes-plot-access-time.py"]
      inputFile := "mcptt-access-time.txt" },
    { name := "m2e-latency"
      program := "plot_cdf"
      inputFile := "mcptt-m2e-latency.txt" } ]

end Preset

/- The sweep of a preset. -/
def Sweep.ofPreset (preset : Preset) : Sweep :=
  { name := preset.name
    axes := preset.axes
    concurrency := preset.concurrency
    simulator := Preset.simulator
    analyses := Preset.analyses }

example : (Sweep.ofPreset .mediaSps).grid.size = 48 := by
  decide +kernel

end LatencySweep
