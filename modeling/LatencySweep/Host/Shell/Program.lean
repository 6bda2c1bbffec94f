import LatencySweep.Host.Shell.Run

/-
  The shell as a program.

  It reads its script from an argument, from a file or from
  the standard input. Like all modules of the shell, this
  one is a stand-in that nothing is proved about.

  Key definitions include:
    * `Shell.Source`
    * `Shell.readStart`
    * `Program.shell`
-/

namespace LatencySweep

namespace Shell

/- Where the script of a shell comes from. -/
inductive Source where
  | argument
  | file
  | input
  deriving DecidableEq

/- Read the options of a shell. The script may be an
   argument, or the standard input may be wanted. -/
def readStart : List String → Source →
    Action (Source × List String)
  | [], source => return (source, [])
  | word :: rest, source => do
      match word.toList with
      | ['-'] | ['-', '-'] => return (source, rest)
      | sign :: c :: letters =>
          if sign ≠ '-' && sign ≠ '+' then
            return (source, word :: rest)
          let on := sign = '-'
          let all := c :: letters
          let source :=
            if all.contains 'c' then .argument
            else if all.contains 's' && source = .file then
              .input
            else source
          (all.filter (· ∉ ['c', 'l', 'o'])).forM
            (turnOption on)
          if all.contains 'o' then
            match rest with
            | [] =>
                listOptions on
                return (source, [])
            | name :: rest =>
                turnNamed on name
                readStart rest source
          else readStart rest source
      | _ => return (source, word :: rest)

/- The state of a shell that was just started. -/
def State.ofCall (call : Call) (machine : Machine) : State :=
  let given := call.environment.filter fun v =>
    isName v.1.toList && v.1 ≠ "IFS" && v.1 ≠ "OPTIND"
  let start : State :=
    { machine, descriptors := call.descriptors
      name := call.name }
  let defaults :=
    firstVariables ++
      (if given.any fun v => v.1 = "PATH" then []
      else [("PATH", defaultSearchPath)])
  let s := defaults.foldl
    (fun s v => s.putVariable v.1 { value := some v.2 }) start
  let s := given.foldl
    (fun s v =>
      s.putVariable v.1
        { value := some v.2, exported := true }) s
  s.putVariable "PWD"
    { value := some s.workPath, exported := true }

/- Carry out the script that arguments ask for. -/
def startWith (run : Runner) (call : Call) : Action Unit := do
  let (source, operands) ← readStart call.args .file
  let _ ← writeRaw 1 (← get).pending
  modify fun s => { s with pending := "" }
  let named (words : List String) : Action Unit :=
    match words with
    | [] => return ()
    | name :: args =>
        modify fun s => { s with name, args }
  match source, operands with
  | .argument, [] => fail "-c requires an argument"
  | .argument, text :: words =>
      named words
      let exits := !(← get).hasOption 's'
      let _ ← runText run { exits } text
  | .file, file :: args =>
      match ← onMachine (call.readFile file) with
      | .error e =>
          fail s!"cannot open {file}: {openReason e false}"
      | .ok text =>
          named (file :: args)
          let _ ← runText run {} text
  | _, args =>
      modify fun s =>
        { s with args, options := 's' :: s.options }
      match ← onMachine call.readInput with
      | .error _ => return ()
      | .ok text =>
          let _ ← runText run {} text

end Shell

namespace Program

/- The shell. -/
def shell (launcher : Launcher) : Program := fun call machine =>
  let run := Shell.runner launcher Shell.maxLevels
  let start := Shell.State.ofCall call machine
  let (ending, s) :=
    (Shell.leaveShell run (Shell.startWith run call)).run start
  let tree :=
    { s.machine.tree with workDir := machine.tree.workDir }
  (ending, { s.machine with tree })

end Program

end LatencySweep
