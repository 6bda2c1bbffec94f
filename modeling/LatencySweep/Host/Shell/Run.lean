import LatencySweep.Host.Shell.Builtin.Process
import LatencySweep.Host.Shell.Builtin.Variables
import LatencySweep.Host.Shell.Builtin.Words
import LatencySweep.Host.Shell.Launch
import LatencySweep.Host.Shell.Redirection

/-
  Carrying out commands of the shell.

  Commands are nested; a runner of one level uses that of
  the next one. A subshell works on a copy of the state, of
  which only the machine is kept. The parts of a pipeline
  run one after the other, each with the output of the one
  before, and so does what runs in the background.

  Key definitions include:
    * `Shell.Flags`
    * `Shell.Runner`
    * `Shell.runText`
    * `Shell.inSubshell`
    * `Shell.runSimple`
    * `Shell.runCommand`
-/

namespace LatencySweep

namespace Shell

------------------------------------------------------------
-- Runners
------------------------------------------------------------

/- How a command is carried out: as a test, whose failure is
   no reason to end, or as the last thing that the shell
   does. -/
structure Flags where
  tested : Bool := false
  exits : Bool := false

/- Carries out a command and returns its status. -/
abbrev Runner := Command → Flags → Action Nat

/- How often a loop goes round at most. -/
def maxRounds : Nat := 20000

/- Go round until there is a result. -/
def goRound {α : Type}
    (otherwise : α)
    (round : Action (Option α)) : Nat → Action α
  | 0 => return otherwise
  | n + 1 => do
      match ← round with
      | some result => return result
      | none => goRound otherwise round n

------------------------------------------------------------
-- Scripts
------------------------------------------------------------

/- There is nothing to be done for a command. -/
def Command.isNothing : Command → Bool
  | .nothing => true
  | _ => false

/- Carry out the commands of a script, the last one with the
   given flags. Each command takes a character, so the first
   number bounds them. -/
def runFrom (run : Runner) (flags : Flags) :
    Nat → Cursor → Nat → Action Nat
  | 0, _, status => return status
  | n + 1, cursor, status => do
      let s ← get
      match readComplete.run
          { cursor with
            documents := []
            documentCount := s.documentCount } with
      | .error fault =>
          modify fun s => { s with line := fault.line }
          fail s!"Syntax error: {fault.problem}"
      | .ok ((command, atEnd), cursor) =>
          set
            { s with
              documents := cursor.documents ++ s.documents
              documentCount := cursor.documentCount }
          match command with
          | none => return status
          | some command =>
              let next ←
                run command
                  { flags with exits := flags.exits && atEnd }
              let status :=
                if command.isNothing then status else next
              if (← get).skip.isSome then return status
              runFrom run flags n cursor status

/- Carry out the script of a text. -/
def runText
    (run : Runner)
    (flags : Flags)
    (text : String) : Action Nat :=
  runFrom run flags (text.length + 2)
    { rest := text.toList } 0

/- Carry out what traps ask for because of signals that have
   arrived. The status stays as it was. -/
def runTraps (run : Runner) : Action Unit := do
  let s ← get
  unless s.signals.isEmpty do
    set { s with signals := [] }
    s.signals.forM fun name => do
      match (← get).traps.lookup name with
      | none => return ()
      | some text =>
          let status := (← get).status
          let _ ← runText run {} text
          if (← get).skip.isNone then setStatus status

------------------------------------------------------------
-- Ends of Shells
------------------------------------------------------------

/- Without the trap for the end of the shell. -/
def State.withoutExitTrap (s : State) : State :=
  { s with
    traps := s.traps.filter fun t => t.1 ≠ "EXIT"
    skip := none, leaving := some s.status }

/- End a shell after its last action: do what the trap for
   its end asks for. -/
def leaveShell
    (run : Runner)
    (act : Action Unit) : StateM State Ending := do
  let statusEnding (s : State) : Ending :=
    .exited (s.status % 256)
  match ← act.run with
  | .error (.ended ending) => return ending
  | _ =>
      let s ← get
      match s.traps.lookup "EXIT" with
      | none => return statusEnding s
      | some text =>
          set s.withoutExitTrap
          match ← (runText run {} text).run with
          | .error (.ended ending) => return ending
          | .error _ => return statusEnding (← get)
          | .ok _ => return statusEnding s

/- The state with which a subshell starts. Traps that ignore
   signals stay. -/
def State.forSubshell (s : State) : State :=
  { s with
    traps := s.traps.filter fun t => t.2 = ""
    jobs := [], signals := [], skip := none, pending := ""
    leaving := none }

/- Carry out an action in a subshell. -/
def inSubshell (run : Runner) (act : Action Unit) :
    Action Ending := do
  let s ← get
  let (ending, inner) :=
    (leaveShell run act).run s.forSubshell
  let tree :=
    { inner.machine.tree with workDir := s.machine.tree.workDir }
  set
    { s with
      machine := { inner.machine with tree }
      nextNumber := inner.nextNumber }
  return ending

/- Lead a descriptor to a new channel. -/
def leadNew (fd : Nat) (channel : Channel) : Action Nat := do
  let s ← get
  let (number, machine) := s.machine.addChannel channel
  set { s with machine }
  lead fd number
  return number

/- What a command in a subshell writes to the standard
   output. -/
def outputOf (run : Runner) (command : Command) :
    Action String := do
  let before := (← get).descriptors
  let number ← leadNew 1 (.pipe [])
  let ending ← inSubshell run do
    let _ ← run command { exits := true }
  noteEnding ending
  modify fun s =>
    { s with descriptors := before, outputStatus := ending.status }
  match (← get).machine.channel? number with
  | some (.pipe content) => return Bytes.toRaw content
  | _ => return ""

/- Keep a job in the background that has ended. -/
def addJob (ending : Ending) : Action Unit :=
  modify fun s =>
    { s with
      jobs := { number := s.nextNumber, ending } :: s.jobs
      lastJob := some s.nextNumber
      nextNumber := s.nextNumber + 1 }

------------------------------------------------------------
-- Pipelines and Subshells
------------------------------------------------------------

/- Carry out the parts of a pipeline, each with the output
   of the one before as its input. -/
def runParts (run : Runner) (flags : Flags) :
    List Command → Action Ending
  | [] => return .exited 0
  | [part] =>
      inSubshell run do
        let _ ← run part { flags with exits := true }
  | part :: rest => do
      let before := (← get).descriptors
      let number ← leadNew 1 (.pipe [])
      let _ ← inSubshell run do
        let _ ← run part { flags with exits := true }
      modify fun s => { s with descriptors := before }
      lead 0 number
      let ending ← runParts run flags rest
      modify fun s => { s with descriptors := before }
      return ending

/- Carry out a pipeline. -/
def runPipeline
    (run : Runner)
    (flags : Flags)
    (parts : List Command)
    (inBackground : Bool) : Action Nat := do
  let before := (← get).descriptors
  if inBackground then
    let _ ← leadNew 0 .null
    let ending ← runParts run {} parts
    modify fun s => { s with descriptors := before }
    addJob ending
    return 0
  else
    let ending ← runParts run flags parts
    noteEnding ending
    return ending.status

/- Carry out a command in a subshell with redirections. -/
def runSubshell
    (run : Runner)
    (flags : Flags)
    (body : Command)
    (redirects : List Redirect)
    (inBackground : Bool) : Action Nat := do
  let targets ← redirects.mapM
    (expandRedirect (outputOf run))
  let before := (← get).descriptors
  if inBackground then
    let _ ← leadNew 0 .null
  let ending ← inSubshell run do
    redirectAll targets
    let tested := flags.tested && !inBackground
    let _ ← run body { tested, exits := true }
  modify fun s => { s with descriptors := before }
  if inBackground then
    addJob ending
    return 0
  else
    noteEnding ending
    return ending.status

------------------------------------------------------------
-- Loops
------------------------------------------------------------

/- What a round of a loop leaves out behind it. One loop is
   taken off what is to be left. -/
def takeSkip : Action (Option Skip) := do
  let s ← get
  match s.skip with
  | some (.leaveLoops n) =>
      if n ≤ 1 then set { s with skip := none }
      else set { s with skip := some (.leaveLoops (n - 1)) }
      return some (.leaveLoops n)
  | some (.nextRound n) =>
      if n ≤ 1 then
        set { s with skip := none }
        return some (.nextRound 1)
      else
        set { s with skip := some (.nextRound (n - 1)) }
        return some (.leaveLoops n)
  | other => return other

/- A loop ends because of what is left out. -/
def endsLoop : Option Skip → Bool
  | none | some (.nextRound _) => false
  | _ => true

/- Carry out an action inside of a loop. -/
def inLoop {α : Type} (act : Action α) : Action α := do
  modify fun s => { s with loops := s.loops + 1 }
  let result ← act
  modify fun s => { s with loops := s.loops - 1 }
  return result

/- Carry out a loop while or until a test holds. -/
def runLoop
    (run : Runner)
    (flags : Flags)
    (whileTrue : Bool)
    (test body : Command) : Action Nat := inLoop do
  let rec rounds : Nat → Nat → Action Nat
    | 0, status => return status
    | n + 1, status => do
        let tested ← run test { tested := true }
        match ← takeSkip with
        | some (.leaveLoops _) => return status
        | some .leaveFunction => return tested
        | some (.nextRound _) => rounds n status
        | none =>
            if (tested = 0) ≠ whileTrue then return status
            let status ← run body { tested := flags.tested }
            if endsLoop (← takeSkip) then return status
            rounds n status
  rounds maxRounds 0

/- Carry out a command for each of some words. -/
def runForEach
    (run : Runner)
    (flags : Flags)
    (name : String)
    (body : Command)
    (words : List String) : Action Nat := inLoop do
  let rec rounds : List String → Nat → Action Nat
    | [], status => return status
    | word :: rest, _ => do
        assign name word
        let status ← run body { tested := flags.tested }
        if endsLoop (← takeSkip) then return status
        rounds rest status
  rounds words 0

/- One of some patterns accepts a text. -/
def anyAccepts
    (run : Runner)
    (text : String) : List Word → Action Bool
  | [] => return false
  | pattern :: rest => do
      let glob ← expandPattern (outputOf run) pattern
      if Glob.accepts glob text.toList then return true
      else anyAccepts run text rest

/- Carry out the first case that has a pattern for a
   text. -/
def runCases
    (run : Runner)
    (flags : Flags)
    (text : String) :
    List (List Word × Command) → Action Nat
  | [] => return 0
  | (patterns, body) :: rest => do
      if ← anyAccepts run text patterns then
        if body.isNothing then return 0
        else run body flags
      else runCases run flags text rest

------------------------------------------------------------
-- Control
------------------------------------------------------------

/- Leave out the rest of loops. -/
def skipLoops
    (skip : Nat → Skip)
    (args : List String) : Action Nat := do
  let count ←
    match args with
    | [] => pure 1
    | text :: _ => do
        let n ← readNumber text
        if n = 0 then fail s!"Illegal number: {text}"
        pure n
  modify fun s =>
    let count := min count s.loops
    if count = 0 then s else { s with skip := some (skip count) }
  return 0

/- Leave out the rest of a function or script. -/
def returnStatus (args : List String) : Action Nat := do
  let status ←
    match args with
    | [] => pure (← get).status
    | text :: _ => readNumber text
  modify fun s => { s with skip := some .leaveFunction }
  return status

/- End the shell. -/
def exitShell (args : List String) : Action Nat := do
  let s ← get
  match args with
  | [] => setStatus (s.leaving.getD s.status)
  | text :: _ => setStatus (← readNumber text)
  throw .exits

/- Carry out words as a script. -/
def evaluate
    (run : Runner)
    (flags : Flags)
    (args : List String) : Action Nat := do
  if args.isEmpty then return 0
  runText run { tested := flags.tested }
    (String.intercalate " " args)

/- The path of a script that is read into the shell. -/
def scriptPath (name : String) : Action String := do
  let s ← get
  let isThere (path : String) : Bool :=
    s.machine.tree.isFile (Call.pathOf path)
  if name.toList.contains '/' then return name
  else
    let paths := s.searchPath.map fun dir =>
      if dir = "" then name else dir ++ "/" ++ name
    match paths.find? isThere with
    | some path => return path
    | none => fail s!"{name}: not found"

/- Carry out a script in the shell itself. -/
def readScript (run : Runner) (args : List String) :
    Action Nat := do
  match args with
  | [] => return 0
  | name :: _ =>
      let path ← scriptPath name
      let s ← get
      let call : Call :=
        { name, args := [], descriptors := s.descriptors }
      match ← onMachine (call.readFile path) with
      | .error e =>
          fail s!"cannot open {path}: {openReason e false}"
      | .ok text =>
          modify fun s => { s with builtin := some path }
          let status ← runText run {} text
          modify fun s =>
            if s.skip = some .leaveFunction then
              { s with skip := none }
            else s
          return status

------------------------------------------------------------
-- Programs and Functions
------------------------------------------------------------

/- Tell that a program could not be started, which gives the
   status. -/
def refuseStart (name : String) (e : OsError) : Action Nat := do
  warn s!"{name}: {startReason e}"
  let status := startFaultStatus e
  setStatus status
  return status

/- Start a program, perhaps in place of the shell. -/
def runProgram
    (launcher : Launcher)
    (replaces : Bool)
    (path name : String)
    (args : List String) : Action Nat := do
  match ← launch launcher path name args with
  | .ok ending =>
      if replaces then throw (.ended ending)
      noteEnding ending
      return ending.status
  | .error e =>
      let status ← refuseStart name e
      if replaces then throw .exits
      return status

/- Put a program in the place of the shell. -/
def replaceShell
    (launcher : Launcher)
    (args : List String) : Action Nat := do
  match args with
  | [] => return 0
  | name :: rest =>
      let s ← get
      let path? :=
        if name.toList.contains '/' then some name
        else searchProgram? s.machine.tree s.searchPath name
      match path? with
      | some path => runProgram launcher true path name rest
      | none =>
          let _ ← refuseStart name .notFound
          throw .exits

/- Carry out a function with arguments. -/
def runFunction
    (run : Runner)
    (flags : Flags)
    (body : Command)
    (args : List String) : Action Nat := do
  let s ← get
  set
    { s with
      args, loops := 0, optionPlace := (1, 0)
      functionDepth := s.functionDepth + 1 }
  let result ← attempt (run body { tested := flags.tested })
  modify fun inner =>
    { inner with
      args := s.args, loops := s.loops
      optionPlace := s.optionPlace
      functionDepth := s.functionDepth
      skip :=
        if inner.skip = some .leaveFunction then none
        else inner.skip }
  match result with
  | .ok _ => return (← get).status
  | .error stop => throw stop

/- Carry out a builtin. What it prints is written when it
   has ended. The failure of a special one ends the
   shell. -/
def runBuiltin
    (name : String)
    (special : Bool)
    (act : Action Nat) : Action Nat := do
  let before ← get
  set { before with builtin := some name, pending := "" }
  let result ← attempt act
  let pending := (← get).pending
  let written ←
    if pending.isEmpty then pure true else writeRaw 1 pending
  modify fun s => { s with builtin := some name }
  unless written do warn s!"{name}: I/O error"
  modify fun s =>
    { s with builtin := before.builtin, pending := before.pending }
  match result with
  | .ok status =>
      let status := if written then status else status ||| 1
      setStatus status
      return status
  | .error .failed =>
      if special then throw .failed
      return (← get).status
  | .error stop => throw stop

------------------------------------------------------------
-- Simple Commands
------------------------------------------------------------

/- How simple commands are carried out: with a launcher,
   builtins, and the runner of the next level. -/
structure Setting where
  launcher : Launcher
  builtins : Builtins
  run : Runner

namespace Setting

/- The builtins that carry out other commands, and those
   that do not. -/
def allBuiltins (c : Setting) (flags : Flags) : Builtins :=
  let special (run : List String → Action Nat) : Builtin :=
    { special := true, run }
  let plain (run : List String → Action Nat) : Builtin :=
    { run }
  let describeAll (args : List String) : Action Nat := do
    let statuses ←
      args.mapM (describe c.builtins true)
    return if statuses.all (· = 0) then 0 else 127
  let describeFirst (args : List String) : Action Nat := do
    let (given, operands) ← readFlags ['p', 'v', 'V'] [] args
    match operands with
    | [] => return 0
    | name :: _ =>
        if hasFlag given 'V' then
          describe c.builtins true name
        else if hasFlag given 'v' then
          describe c.builtins false name
        else return 0
  [ ("break", special (skipLoops .leaveLoops)),
    ("continue", special (skipLoops .nextRound)),
    ("return", special returnStatus),
    ("exit", special exitShell),
    ("eval", special (evaluate c.run flags)),
    (".", special (readScript c.run)),
    ("exec", special (replaceShell c.launcher)),
    ("type", plain describeAll),
    ("command", plain describeFirst) ] ++ c.builtins

/- The words behind `command` and its options, if there are
   any. -/
def behindCommand? : List String → Option (List String)
  | [] => none
  | "--" :: rest => if rest.isEmpty then none else some rest
  | "-p" :: rest => behindCommand? rest
  | word :: rest =>
      match word.toList with
      | '-' :: _ :: _ => none
      | _ => some (word :: rest)

/- The words of a command without `command` in front of
   them. Each step takes a word, so the first argument
   bounds the steps. -/
def withoutCommand : Nat → List String → List String
  | 0, words => words
  | n + 1, words =>
      match words with
      | "command" :: rest =>
          match behindCommand? rest with
          | some others => withoutCommand n others
          | none => words
      | words => words

/- Assignments among further words are expanded as such. -/
def takesAssignments
    (c : Setting) (words : List String) : Bool :=
  match withoutCommand words.length words with
  | [] => false
  | name :: _ =>
      match c.builtins.lookup name with
      | some b => b.assigns
      | none => false

/- The words that a command is made of. -/
def expandWords (c : Setting) :
    List Word → List String → Action (List String)
  | [], done => return done
  | word :: rest, done => do
      let output := outputOf c.run
      let fields ←
        match c.takesAssignments done, word.assignment? with
        | true, some (name, value) => do
            let value ← expandValue output value
            pure [name ++ "=" ++ value]
        | _, _ => expandFields output word
      expandWords c rest (done ++ fields)

/- Show a command that is about to be carried out. -/
def trace
    (before : Descriptors)
    (assigned words : List String) : Action Unit := do
  let s ← get
  if s.hasOption 'x' then
    let mark := (s.value? "PS4").getD ""
    let line :=
      mark ++ String.intercalate " " (assigned ++ words) ++ "\n"
    match s.machine.write before 2 (Bytes.ofRaw line) with
    | .ok machine => set { s with machine }
    | .error _ => return ()

/- Give variables their values, for the time of a command if
   they are saved. The result shows the assignments. -/
def assignAll
    (c : Setting)
    (saves exports : Bool)
    (assignments : List (String × Word)) :
    Action (List String) :=
  assignments.mapM fun (name, word) => do
    let value ← expandValue (outputOf c.run) word
    if saves then
      save (.variable name ((← get).known? name))
    assignAs (saves || exports) name value
    return name ++ "=" ++ value

/- Carry out an action in a scope of its own. -/
def inScope {α : Type} (act : Action α) : Action α := do
  openScope
  let result ← attempt act
  closeScope
  match result with
  | .ok a => return a
  | .error stop => throw stop

/- Tell that there is no program with a name. -/
def refuseUnknown (name : String) : Action Nat := do
  let reason :=
    if name = "" then "Permission denied" else "not found"
  warn s!"{name}: {reason}"
  setStatus 127
  return 127

/- Carry out a command whose words are known. -/
def runWords
    (c : Setting)
    (flags : Flags)
    (targets : List (Nat × Target))
    (assignments : List (String × Word))
    (words : List String) : Action Nat := do
  let s ← get
  let before := s.descriptors
  let kept := withoutCommand words.length words
  let plain := kept.length < words.length
  let name := kept.headD ""
  let args := kept.tail
  let usesDefault := plain && words.contains "-p"
  let dirs :=
    if usesDefault then
      (defaultSearchPath.toList.splitOn ':').map String.ofList
    else s.searchPath
  let known :=
    if plain then { s with functions := [] } else s
  let builtins := c.allBuiltins flags
  let meaning := meaningOf builtins known dirs name
  let special :=
    match meaning with
    | .builtin b => b.special && !plain
    | _ => false
  let failed : Action Nat := do
    setStatus 2
    if special then throw .failed
    return 2
  let assigned (saves exports : Bool) : Action Unit := do
    let shown ← c.assignAll saves exports assignments
    trace before shown words
  let isExec := special && name = "exec"
  if isExec then
    match ← attempt (redirectAll targets) with
    | .error .failed => failed
    | .error stop => throw stop
    | .ok _ =>
        assigned false (!args.isEmpty)
        runBuiltin name true (replaceShell c.launcher args)
  else
    withRedirects targets failed do
      match meaning with
      | .builtin b =>
          if special then
            assigned false false
            runBuiltin name true (b.run args)
          else
            inScope do
              assigned true false
              runBuiltin name false (b.run args)
      | .function body =>
          inScope do
            assigned true false
            runFunction c.run flags body args
      | .program path =>
          let replaces := flags.exits && s.traps.isEmpty
          inScope do
            assigned true false
            runProgram c.launcher replaces path name args
      | .keyword | .unknown =>
          inScope do
            assigned true false
            refuseUnknown name

/- Carry out a simple command. Without words, its status is
   that of the last command whose output it took. -/
def runSimple
    (c : Setting)
    (flags : Flags)
    (assignments : List (String × Word))
    (words : List Word)
    (redirects : List Redirect) : Action Nat := do
  modify fun s => { s with outputStatus := 0 }
  let output := outputOf c.run
  let words ← c.expandWords words []
  let before := (← get).descriptors
  let targets ← redirects.mapM (expandRedirect output)
  if words.isEmpty then
    let failed : Action Nat := do
      setStatus 2
      return 2
    withRedirects targets failed do
      let shown ← c.assignAll false false assignments
      unless shown.isEmpty do trace before shown []
      return (← get).outputStatus
  else c.runWords flags targets assignments words

------------------------------------------------------------
-- Commands
------------------------------------------------------------

/- The line of a command, for messages. -/
def atLine (line : Nat) : Action Unit :=
  modify fun s => { s with line }

/- The commands that follow one another in a sequence. -/
def stepsOf : Nat → Command → List Command → List Command
  | n + 1, .sequence first second, rest =>
      stepsOf n first (second :: rest)
  | _, command, rest => command :: rest

/- Carry out commands one after the other, the last one with
   the given flags. -/
def runSteps (c : Setting) (flags : Flags) :
    List Command → Action Nat
  | [] => return 0
  | [command] => c.run command flags
  | command :: rest => do
      let status ← c.run command { tested := flags.tested }
      if (← get).skip.isSome then return status
      runSteps c flags rest

/- The status of a command, and whether a failure of it may
   end the shell. -/
def statusOf (c : Setting) (command : Command) (flags : Flags) :
    Action (Nat × Bool) := do
  let kept (act : Action Nat) : Action (Nat × Bool) := do
    let status ← act
    setStatus status
    return (status, false)
  let checked (act : Action Nat) : Action (Nat × Bool) := do
    let status ← act
    setStatus status
    return (status, true)
  let skipping : Action Bool := do
    return (← get).skip.isSome
  match command with
  | .nothing => return (0, false)
  | .simple line assignments words redirects =>
      checked do
        atLine line
        c.runSimple flags assignments words redirects
  | .pipeline parts inBackground =>
      checked (runPipeline c.run flags parts inBackground)
  | .background line body redirects =>
      checked do
        atLine line
        runSubshell c.run flags body redirects true
  | .subshell line body redirects =>
      checked do
        atLine line
        runSubshell c.run flags body redirects false
  | .redirected line body redirects =>
      kept do
        atLine line
        let targets ← redirects.mapM
          (expandRedirect (outputOf c.run))
        withRedirects targets (pure 2)
          (c.run body { tested := flags.tested })
  | .sequence first second =>
      kept (c.runSteps flags
        (stepsOf maxRounds (.sequence first second) []))
  | .both first second => do
      let status ← c.run first { tested := true }
      if status ≠ 0 || (← skipping) then return (status, false)
      kept (c.run second flags)
  | .either first second => do
      let status ← c.run first { tested := true }
      if status = 0 || (← skipping) then return (status, false)
      kept (c.run second flags)
  | .negated body =>
      kept do
        let status ← c.run body { tested := true }
        return if status = 0 then 1 else 0
  | .branch test yes no => do
      let status ← c.run test { tested := true }
      if ← skipping then return (status, false)
      if status = 0 then kept (c.run yes flags)
      else if no.isNothing then kept (pure 0)
      else kept (c.run no flags)
  | .loop whileTrue test body =>
      kept (runLoop c.run flags whileTrue test body)
  | .forEach line name words body =>
      kept do
        atLine line
        let output := outputOf c.run
        let fields ← words.mapM (expandFields output)
        runForEach c.run flags name body fields.flatten
  | .choice line word cases =>
      kept do
        atLine line
        let text ← expandText (outputOf c.run) word
        runCases c.run flags text cases
  | .definition name body =>
      kept do
        modify fun s =>
          { s with functions := (name, body) :: s.functions }
        return 0

/- Carry out a command. A failure ends the shell if the
   option for this is on. -/
def runCommand (c : Setting) : Runner := fun command flags => do
  if (← get).hasOption 'n' then return 0
  let (status, checked) ← c.statusOf command flags
  let ends := checked && !flags.tested && status ≠ 0
  if ends && (← get).hasOption 'e' then throw .exits
  runTraps c.run
  if flags.exits then throw .exits
  return status

end Setting

/- All builtins that do not carry out other commands. -/
def plainBuiltins : Builtins :=
  wordBuiltins ++ variableBuiltins ++ processBuiltins

/- The runner of a level with a number of levels below. -/
def runner (launcher : Launcher) : Nat → Runner
  | 0, _, _ => do
      warn "Too many levels"
      throw .exits
  | n + 1, command, flags =>
      Setting.runCommand
        { launcher, builtins := plainBuiltins
          run := runner launcher n } command flags

/- The greatest number of levels. -/
def maxLevels : Nat := 2000

end Shell

end LatencySweep
