import LatencySweep.Host.FileTree
import LatencySweep.Host.Invocation

/-
  Everything that a run reads and changes.

  A world holds the file tree, the state of the programs
  that are called, and the events so far in the order in
  which they happened. A runner answers invocations and may
  change the tree and its own state, but no past event.

  Key definitions include:
    * `Event`
    * `World`
    * `World.log`
    * `World.print`
    * `Runner`
    * `World.call`
-/

namespace LatencySweep

------------------------------------------------------------
-- Events
------------------------------------------------------------

/- How much a log message matters. -/
inductive Level where
  | error
  | warn
  | info
  | debug
  | trace
  deriving DecidableEq

/- The name of a level in log lines. -/
def Level.name : Level → String
  | error => "ERROR"
  | warn => "WARN"
  | info => "INFO"
  | debug => "DEBUG"
  | trace => "TRACE"

/- Something that happened in the course of a run. -/
inductive Event where
  | logged (level : Level) (message : String)
  | printed (line : String)
  | created (directory : Path)
  | called (invocation : Invocation)
  deriving DecidableEq

namespace Event

/- The log line of an event. -/
def logLine? : Event → Option String
  | logged level message =>
      some (level.name ++ " " ++ message)
  | _ => none

/- The line that an event printed. -/
def printedLine? : Event → Option String
  | printed line => some line
  | _ => none

/- The invocation that an event started. -/
def invocation? : Event → Option Invocation
  | called invocation => some invocation
  | _ => none

end Event

------------------------------------------------------------
-- Worlds
------------------------------------------------------------

/- The file tree, the state of the programs and the events
   so far. -/
structure World (σ : Type) where
  tree : FileTree
  programs : σ
  events : List Event

namespace World

variable {σ : Type}

/- A world in which nothing has happened yet. -/
def start (tree : FileTree) (programs : σ) : World σ :=
  { tree, programs, events := [] }

/- One more event. -/
def record (w : World σ) (event : Event) : World σ :=
  { w with events := w.events ++ [event] }

/- A log message. -/
def log
    (w : World σ)
    (level : Level)
    (message : String) : World σ :=
  w.record (.logged level message)

/- A line on the standard output. -/
def print (w : World σ) (line : String) : World σ :=
  w.record (.printed line)

/- The log lines so far. -/
def logLines (w : World σ) : List String :=
  w.events.filterMap Event.logLine?

/- The printed lines so far. -/
def printedLines (w : World σ) : List String :=
  w.events.filterMap Event.printedLine?

/- The invocations so far. -/
def invocations (w : World σ) : List Invocation :=
  w.events.filterMap Event.invocation?

end World

------------------------------------------------------------
-- Runners
------------------------------------------------------------

/- What a runner makes of an invocation. -/
structure Answer (σ : Type) where
  result : Except OsError Outcome
  tree : FileTree
  programs : σ
  messages : List (Level × String)

/-
  Runs programs to their end. Only a program that cannot be
  started is a failure; an exit code is part of the
  outcome.
-/
structure Runner (σ : Type) where
  run : Invocation → FileTree → σ → Answer σ

/- Call a program. -/
def World.call
    {σ : Type}
    (w : World σ)
    (runner : Runner σ)
    (invocation : Invocation) :
    Except OsError Outcome × World σ :=
  let answer := runner.run invocation w.tree w.programs
  (answer.result,
    { tree := answer.tree
      programs := answer.programs
      events :=
        w.events ++ [.called invocation] ++
          answer.messages.map fun m => .logged m.1 m.2 })

end LatencySweep
