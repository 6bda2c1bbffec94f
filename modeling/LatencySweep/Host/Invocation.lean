import LatencySweep.Host.Path
import LatencySweep.Number.Duration
import LatencySweep.Text.Blank

/-
  Program calls and how they end.

  An invocation is shown like a shell command. Words that
  are empty or hold a blank are put in double quotes.

  Key definitions include:
    * `Invocation`
    * `Invocation.toText`
    * `Outcome`
    * `Outcome.succeeded`
    * `Outcome.toText`
-/

namespace LatencySweep

------------------------------------------------------------
-- Invocations
------------------------------------------------------------

/- A call of a program whose output goes to a log file. -/
structure Invocation where
  program : String
  args : List String
  logPath : Path
  deriving DecidableEq

namespace Invocation

/- A word needs quotes to be seen as one. -/
def needsQuotes (word : String) : Bool :=
  word = "" || word.toList.any isBlank

/- A word of a shown command. -/
def shownWord (word : String) : String :=
  if needsQuotes word then "\"" ++ word ++ "\"" else word

/- The program and its arguments. -/
def words (call : Invocation) : List String :=
  call.program :: call.args

/- The invocation as a command line. -/
def toText (call : Invocation) : String :=
  String.intercalate " " (call.words.map shownWord) ++
    " > " ++ call.logPath.text ++ " 2>&1"

instance : ToString Invocation := ⟨toText⟩

end Invocation

------------------------------------------------------------
-- Outcomes
------------------------------------------------------------

/- How a program ended. Without an exit code, a signal ended
   it. -/
structure Outcome where
  exitCode : Option Int
  duration : Duration
  logPath : Path
  deriving DecidableEq

namespace Outcome

/- The program ended with exit code zero. -/
def succeeded (outcome : Outcome) : Bool :=
  outcome.exitCode = some 0

/- The outcome as shown in reports. -/
def toText (outcome : Outcome) : String :=
  match outcome.exitCode with
  | some code =>
      s!"exit code {code} after {outcome.duration}"
  | none =>
      s!"terminated by a signal after {outcome.duration}"

instance : ToString Outcome := ⟨toText⟩

end Outcome

end LatencySweep
