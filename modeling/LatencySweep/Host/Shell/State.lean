import LatencySweep.Host.Program
import LatencySweep.Host.Shell.Reader

/-
  What a shell knows while it carries out commands.

  The state holds the machine, the variables and functions,
  the options, and how the last command ended. An action
  changes the state; it may stop because of a failure or
  because the shell ends.

  Key definitions include:
    * `Shell.Variable`
    * `Shell.State`
    * `Shell.Action`
    * `Shell.warn`
    * `Shell.fail`
    * `Shell.assign`
-/

namespace LatencySweep

namespace Shell

------------------------------------------------------------
-- The State
------------------------------------------------------------

/- A variable, which may be known without having a value. -/
structure Variable where
  value : Option String
  exported : Bool := false
  readOnly : Bool := false
  deriving DecidableEq

/- What is left out up to the end of a loop or function. -/
inductive Skip where
  | leaveLoops (count : Nat)
  | nextRound (count : Nat)
  | leaveFunction
  deriving DecidableEq

/- Variables, or the options, as they were before a command
   changed them for its own time. -/
inductive Saved where
  | variable (name : String) (before : Option Variable)
  | options (before : List Char)
  deriving DecidableEq

/- A job in the background, and how it ended. -/
structure Job where
  number : Nat
  ending : Ending
  deriving DecidableEq

/- The state of a shell. -/
structure State where
  machine : Machine
  descriptors : Descriptors := []
  name : String := "sh"
  args : List String := []
  named : List (String × Variable) := []
  functions : List (String × Command) := []
  documents : List (Nat × Word) := []
  documentCount : Nat := 0
  options : List Char := []
  traps : List (String × String) := []
  signals : List String := []
  status : Nat := 0
  outputStatus : Nat := 0
  jobs : List Job := []
  lastJob : Option Nat := none
  line : Nat := 0
  builtin : Option String := none
  skip : Option Skip := none
  loops : Nat := 0
  functionDepth : Nat := 0
  scopes : List (List Saved) := []
  optionPlace : Nat × Nat := (1, 0)
  mask : Nat := 18
  number : Nat := 100
  nextNumber : Nat := 101
  pending : String := ""
  leaving : Option Nat := none

/- Why an action stops: something failed, the shell ends, or
   it was ended from outside or replaced by a program. -/
inductive Stop where
  | failed
  | exits
  | ended (ending : Ending)
  deriving DecidableEq

/- An action of the shell. -/
abbrev Action := ExceptT Stop (StateM State)

/- A change of the machine as an action. -/
def onMachine {α : Type} (act : StateM Machine α) : Action α :=
  modifyGet fun s =>
    let (result, machine) := act s.machine
    (result, { s with machine })

/- An action whose stop is a result. -/
def attempt {α : Type} (act : Action α) :
    Action (Except Stop α) :=
  fun s =>
    let (result, s) := act s
    (.ok result, s)

/- An option is on. -/
def State.hasOption (s : State) (letter : Char) : Bool :=
  letter ∈ s.options

------------------------------------------------------------
-- Messages
------------------------------------------------------------

/- Write to a descriptor. What cannot be written is lost, and
   the result says so. -/
def writeRaw (fd : Nat) (raw : String) : Action Bool :=
  modifyGet fun s =>
    match s.machine.write s.descriptors fd (Bytes.ofRaw raw) with
    | .ok machine => (true, { s with machine })
    | .error _ => (false, s)

/- A message behind the name of the shell, the line, and the
   builtin that is running. -/
def State.message (s : State) (problem : String) : String :=
  let place := s!"{s.name}: {s.line}: "
  match s.builtin with
  | none => s!"{place}{problem}\n"
  | some name => s!"{place}{name}: {problem}\n"

/- Tell about a problem. -/
def warn (problem : String) : Action Unit := do
  let _ ← writeRaw 2 ((← get).message problem)

/- Give the last command another status. -/
def setStatus (status : Nat) : Action Unit :=
  modify fun s => { s with status }

/- Tell about a problem and stop with a status. -/
def failWith {α : Type}
    (status : Nat)
    (problem : String) : Action α := do
  warn problem
  setStatus status
  throw .failed

/- Tell about a problem and stop. -/
def fail {α : Type} (problem : String) : Action α :=
  failWith 2 problem

/- Keep output until the running builtin has ended. -/
def put (raw : String) : Action Unit :=
  modify fun s => { s with pending := s.pending ++ raw }

/- Keep a line of output. -/
def putLine (line : String) : Action Unit :=
  put (line ++ "\n")

/- How a failure to open a file is told. -/
def openReason (e : OsError) (creates : Bool) : String :=
  match e with
  | .notFound | .notDirectory =>
      if creates then "Directory nonexistent"
      else "No such file"
  | e => e.reason

------------------------------------------------------------
-- Variables
------------------------------------------------------------

/- A variable by its name. -/
def State.known? (s : State) (name : String) :
    Option Variable :=
  s.named.lookup name

/- The value of a variable. -/
def State.value? (s : State) (name : String) :
    Option String :=
  (s.known? name).bind Variable.value

/- The state with a variable put in. -/
def State.putVariable
    (s : State)
    (name : String)
    (v : Variable) : State :=
  { s with
    named :=
      (name, v) :: s.named.filter fun e => e.1 ≠ name }

/- The state without a variable. -/
def State.dropVariable (s : State) (name : String) : State :=
  { s with
    named := s.named.filter fun e => e.1 ≠ name }

/- What else changes with the value of a variable. -/
def State.noteValue (s : State) (name value : String) : State :=
  if name = "OPTIND" then
    { s with optionPlace := ((value.toNat?).getD 0, 0) }
  else s

/- Give a variable a value, and perhaps mark it for
   programs. -/
def assignAs
    (exports : Bool)
    (name value : String) : Action Unit := do
  unless isName name.toList do
    fail s!"{name}: bad variable name"
  let s ← get
  let old := (s.known? name).getD { value := none }
  if old.readOnly then fail s!"{name}: is read only"
  let exported :=
    old.exported || exports || s.hasOption 'a'
  set
    ((s.putVariable name
      { old with value := some value, exported }).noteValue
        name value)

/- Give a variable a value. -/
def assign (name value : String) : Action Unit :=
  assignAs false name value

/- The variables that programs are started with. -/
def State.environment (s : State) : List (String × String) :=
  s.named.reverse.filterMap fun (name, v) =>
    if v.exported then v.value.map fun value => (name, value)
    else none

/- The names of variables that belong to every shell, with
   the values at its start. -/
def firstVariables : List (String × String) :=
  [ ("OPTIND", "1"), ("IFS", " \t\n"), ("PS1", "# "),
    ("PS2", "> "), ("PS4", "+ ") ]

------------------------------------------------------------
-- Scopes
------------------------------------------------------------

/- Open a scope, in which variables may be saved. -/
def openScope : Action Unit :=
  modify fun s => { s with scopes := [] :: s.scopes }

/- Note in the current scope how something was before. -/
def save (saved : Saved) : Action Unit :=
  modify fun s =>
    match s.scopes with
    | [] => s
    | scope :: rest =>
        { s with scopes := (saved :: scope) :: rest }

/- The state as it was before something was changed. -/
def State.restore (s : State) : Saved → State
  | .variable name none => s.dropVariable name
  | .variable name (some v) => s.putVariable name v
  | .options before => { s with options := before }

/- Close the current scope and restore what it saved. -/
def closeScope : Action Unit :=
  modify fun s =>
    match s.scopes with
    | [] => s
    | scope :: rest =>
        scope.foldl State.restore { s with scopes := rest }

------------------------------------------------------------
-- Search Path
------------------------------------------------------------

/- Where programs are looked for if nothing else is said. -/
def defaultSearchPath : String :=
  "/usr/local/sbin:/usr/local/bin:/usr/sbin:/usr/bin:" ++
    "/sbin:/bin"

/- The directories in which programs are looked for. -/
def State.searchPath (s : State) : List String :=
  (((s.value? "PATH").getD "").toList.splitOn ':').map
    String.ofList

end Shell

end LatencySweep
