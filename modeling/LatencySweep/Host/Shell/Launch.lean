import LatencySweep.Host.Shell.Builtin.Basic

/-
  Programs and files that the shell starts.

  A name without a separator is looked for on the search
  path; any other one is a path. A file that may be executed
  but tells no program of its own is a script of the shell.

  Key definitions include:
    * `Launcher`
    * `searchProgram?`
    * `Shell.startProgram`
-/

namespace LatencySweep

/- How programs are started by their paths. -/
structure Launcher where
  start :
    String → Call → StateM Machine (Except OsError Ending)

namespace Launcher

/- A launcher without any programs. -/
def empty : Launcher where
  start _ _ := return .error .notFound

end Launcher

/- A path leads to a file that may be executed. -/
def isProgram (tree : FileTree) (path : String) : Bool :=
  tree.isFile (Call.pathOf path) &&
    tree.isExecutable (Call.pathOf path)

/- The first path in some directories at which a program
   stands. -/
def searchProgram?
    (tree : FileTree)
    (dirs : List String)
    (name : String) : Option String :=
  (dirs.map fun dir =>
      if dir = "" then name
      else if dir.toList.getLast? = some '/' then dir ++ name
      else dir ++ "/" ++ name).find?
    (isProgram tree)

namespace Shell

/- The shell that reads scripts without a program of their
   own. -/
def shellPath : String := "/bin/sh"

/- The status of a program that could not be started. -/
def startFaultStatus (e : OsError) : Nat :=
  match e with
  | .notFound | .notDirectory | .nameTooLong => 127
  | _ => 126

/- How a failure to start a program is told. -/
def startReason (e : OsError) : String :=
  match e with
  | .notFound | .notDirectory => "not found"
  | e => e.reason

/- Start the program at a path. A script without a program
   of its own is read by a shell. -/
def startProgram
    (launcher : Launcher)
    (path : String)
    (call : Call) :
    StateM Machine (Except OsError Ending) := do
  match ← launcher.start path call with
  | .error .badFormat =>
      launcher.start shellPath
        { call with
          name := shellPath, args := path :: call.args }
  | result => return result

/- Start a program with arguments, under the name that it
   was called by. -/
def launch
    (launcher : Launcher)
    (path name : String)
    (args : List String) : Action (Except OsError Ending) := do
  let s ← get
  onMachine
    (startProgram launcher path
      { name, args, environment := s.environment
        descriptors := s.descriptors })

------------------------------------------------------------
-- What Names Stand For
------------------------------------------------------------

/- What a name stands for as a command. -/
inductive Meaning where
  | keyword
  | function (body : Command)
  | builtin (b : Builtin)
  | program (path : String)
  | unknown

/- What a name stands for. Keywords are left out unless they
   are asked for. -/
def meaningOf
    (builtins : Builtins)
    (s : State)
    (dirs : List String)
    (name : String) : Meaning :=
  if name.toList.contains '/' then .program name
  else
    match s.functions.lookup name, builtins.lookup name with
    | some body, _ => .function body
    | none, some b => .builtin b
    | none, none =>
        match searchProgram? s.machine.tree dirs name with
        | some path => .program path
        | none => .unknown

/- Describe what a name stands for, in words or as short as
   possible. The result is the status. -/
def describe
    (builtins : Builtins)
    (inWords : Bool)
    (name : String) : Action Nat := do
  let s ← get
  let say (short words : String) : Action Nat := do
    putLine (if inWords then s!"{name} is {words}" else short)
    return 0
  let unknown : Action Nat := do
    if inWords then putLine s!"{name}: not found"
    return 127
  if keywords.contains name then say name "a shell keyword"
  else
    match meaningOf builtins s s.searchPath name with
    | .keyword => say name "a shell keyword"
    | .function _ => say name "a shell function"
    | .builtin b =>
        say name
          (if b.special then "a special shell builtin"
          else "a shell builtin")
    | .program path =>
        if isProgram s.machine.tree path then
          say path path
        else unknown
    | .unknown => unknown

end Shell

end LatencySweep
