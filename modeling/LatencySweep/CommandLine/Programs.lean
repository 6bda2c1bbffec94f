import LatencySweep.CommandLine.Plot
import LatencySweep.CommandLine.Sweep
import LatencySweep.Host.Program.Columns
import LatencySweep.Host.Program.Compare
import LatencySweep.Host.Program.Exchange
import LatencySweep.Host.Program.Files
import LatencySweep.Host.Program.Search
import LatencySweep.Host.Program.Sort
import LatencySweep.Host.Shell.Program
import LatencySweep.Host.System

/-
  The commands as programs, and the host on which they run.

  A command works on the file tree of the machine. What it
  prints reaches its standard output at the latest when it
  ends.

  Key definitions include:
    * `Program.ofCommand`
    * `Program.plot`
    * `Program.sweep`
    * `Host.standard`
-/

namespace LatencySweep

------------------------------------------------------------
-- Commands as Programs
------------------------------------------------------------

/- The channels of a machine, and how many of the printed
   lines were written to them. -/
structure Printout where
  channels : List Channel
  written : Nat := 0

namespace World

/- Write the lines that were printed since the last time. -/
def settle (call : Call) (w : World Printout) :
    World Printout :=
  let lines := w.printedLines
  let machine : Machine :=
    { tree := w.tree, channels := w.programs.channels }
  let fresh := lines.drop w.programs.written
  let text := String.join (fresh.map (· ++ "\n"))
  let (_, machine) := call.print (rawOfText text) machine
  { w with
    tree := machine.tree
    programs :=
      { channels := machine.channels, written := lines.length } }

/- The machine of a world. -/
def machine (w : World Printout) : Machine :=
  { tree := w.tree, channels := w.programs.channels }

end World

namespace Program

/- A command as a program. Its failure is told on the second
   output. -/
def ofCommand
    (command :
      Call → List String → World Printout →
        CommandEnd × World Printout) : Program :=
  fun call machine =>
    let start : World Printout :=
      { tree := machine.tree
        programs := { channels := machine.channels }
        events := [] }
    let (ending, w) :=
      command call (call.args.map textOfRaw) start
    let machine := (w.settle call).machine
    let told : StateM Machine Unit :=
      match ending.errorText? with
      | none => return ()
      | some text => call.writeTo 2 (rawOfText (text ++ "\n"))
    let (_, machine) := told machine
    (.exited ending.exitCode, machine)

/- The command that plots a trace. -/
def plot [ChartLibrary] : Program :=
  ofCommand fun call args =>
    PlotSettings.form.perform args
      (PlotSettings.perform (World.settle call))

/- A runner for worlds with another state. -/
def liftRunner {σ : Type} (runner : Runner Unit) : Runner σ where
  run invocation tree programs :=
    let answer := runner.run invocation tree ()
    { result := answer.result, tree := answer.tree, programs
      messages := answer.messages }

/- The command that runs a sweep. -/
def sweep (runner : Runner Unit) : Program :=
  ofCommand fun _ args => sweepCommand (liftRunner runner) args

------------------------------------------------------------
-- The Host
------------------------------------------------------------

/- The programs that start no others. -/
def simple : Table :=
  outputs ++ conditions ++ lineFilters ++ columns ++
    comparisons ++ searches ++ fileTools ++
    [("sort", sort), ("tr", exchange)]

/- All programs of a host, with a launcher for those that
   start others. -/
def all (launcher : Launcher) : Table :=
  [("sh", shell launcher), ("dash", shell launcher)] ++ simple

end Program

/- The charting library of the host. -/
instance Host.charts : ChartLibrary := .plain

namespace Host

/- A host on which sweeps run sweeps up to a depth. -/
def ofDepth : Nat → Host
  | 0 =>
      { programs := Program.all
        tools := [("plot_cdf", Program.plot)] }
  | n + 1 =>
      { programs := Program.all
        tools :=
          [ ("plot_cdf", Program.plot),
            ("sweep", Program.sweep (ofDepth n).runner) ] }

/- The host on which the commands run. -/
def standard : Host := ofDepth 8

end Host

end LatencySweep
