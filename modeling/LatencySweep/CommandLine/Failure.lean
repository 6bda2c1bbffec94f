import LatencySweep.CommandLine.Options
import LatencySweep.Report.Plot
import LatencySweep.Sweep.File
import LatencySweep.Sweep.Run
import LatencySweep.Text.Columns

/-
  How a command ends, and how its failure is told.

  A failure is told as what could not be done, followed by
  its causes, the nearest one first.

  Key definitions include:
    * `Failure`
    * `Failure.toText`
    * `CommandEnd`
    * `CommandEnd.exitCode`
-/

namespace LatencySweep

------------------------------------------------------------
-- Causes
------------------------------------------------------------

/- The causes of an error on a trace. -/
def RecordError.causes (e : RecordError) : List String :=
  match e with
  | .unreadable _ cause => [e.message, cause.message]
  | _ => [e.message]

/- The causes of an error on a distribution. -/
def CdfError.causes (e : CdfError) : List String :=
  match e with
  | .table cause => [e.message, cause.message]
  | _ => [e.message]

/- The causes of a failed report. -/
def PlotError.causes (e : PlotError) : List String :=
  match e with
  | .record cause => cause.causes
  | .cdf cause => cause.causes
  | .figure .. => [e.message]

/- The causes of a sweep that cannot be loaded. -/
def SweepFileError.causes (e : SweepFileError) : List String :=
  match e with
  | .file cause => [e.message, cause.message]
  | .json cause => [e.message, cause.message]
  | .defect _ => [e.message]

/- The causes of a sweep that does not start. -/
def SweepError.causes (e : SweepError) : List String :=
  match e with
  | .defect cause => [e.message, cause.message]
  | .outputRoot _ cause => [e.message, cause.message]
  | _ => [e.message]

------------------------------------------------------------
-- Failures
------------------------------------------------------------

/- What could not be done, and why. -/
structure Failure where
  context : String
  causes : List String
  deriving DecidableEq

namespace Failure

/- A text with something in front of its first line and
   something else in front of the others. -/
def indented (first others text : String) : String :=
  match text.toList.splitOn '\n' with
  | [] => first
  | line :: rest =>
      first ++ String.ofList line ++
        String.join (rest.map fun l =>
          "\n" ++ others ++ String.ofList l)

/- A cause with its number. -/
def numbered (number : Nat) (cause : String) : String :=
  indented (padLeft 5 (toString number) ++ ": ") "       " cause

/- Causes with their numbers, which start at the given
   one. -/
def numberedFrom : Nat → List String → List String
  | _, [] => []
  | n, cause :: rest =>
      numbered n cause :: numberedFrom (n + 1) rest

/- The causes as shown. A single one has no number. -/
def shownCauses : List String → List String
  | [cause] => [indented "    " "    " cause]
  | causes => numberedFrom 0 causes

/- The failure as shown. -/
def toText (failure : Failure) : String :=
  match failure.causes with
  | [] => s!"Error: {failure.context}"
  | causes =>
      String.intercalate "\n"
        (s!"Error: {failure.context}" :: "" :: "Caused by:" ::
          shownCauses causes)

example :
    toText ⟨"a", ["b\nc", "d"]⟩ =
      "Error: a\n\nCaused by:\n    0: b\n       c\n    1: d" := by
  decide +kernel

end Failure

------------------------------------------------------------
-- Ends of Commands
------------------------------------------------------------

/- How a command ended. -/
inductive CommandEnd where
  | done
  | runsFailed
  | failed (failure : Failure)
  | misused (misuse : Misuse)
  deriving DecidableEq

namespace CommandEnd

/- The exit code of a command. -/
def exitCode : CommandEnd → Nat
  | done => 0
  | runsFailed => 1
  | failed _ => 1
  | misused _ => 2

/- What a command says about its end. -/
def errorText? : CommandEnd → Option String
  | done | runsFailed => none
  | failed failure => some failure.toText
  | misused misuse => some s!"error: {misuse.message}"

end CommandEnd

/- Lines on the standard output. -/
def World.printAll
    {σ : Type}
    (w : World σ)
    (lines : List String) : World σ :=
  lines.foldl World.print w

/- Read the arguments of a command and carry it out. -/
def CommandForm.perform
    {α σ : Type}
    (form : CommandForm α)
    (args : List String)
    (action : α → World σ → CommandEnd × World σ)
    (w : World σ) : CommandEnd × World σ :=
  match form.read args with
  | .ok settings => action settings w
  | .error .help => (.done, w.printAll form.usage)
  | .error (.misuse misuse) => (.misused misuse, w)

end LatencySweep
