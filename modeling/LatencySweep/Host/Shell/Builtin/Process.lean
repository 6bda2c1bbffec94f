import LatencySweep.Host.Shell.Builtin.Basic
import LatencySweep.Host.Shell.Signal

/-
  Builtins for directories, jobs and signals.

  Key definitions include:
    * `Shell.changeDirectory`
    * `Shell.killJobs`
    * `Shell.awaitJobs`
    * `Shell.setTraps`
    * `Shell.processBuiltins`
-/

namespace LatencySweep

namespace Shell

------------------------------------------------------------
-- Directories
------------------------------------------------------------

/- The path of the working directory as raw text. -/
def State.workPath (s : State) : String :=
  rawOfText s.machine.tree.workPath.text

/- Enter a directory. The result says whether it worked. -/
def enterDirectory (path : String) : Action Bool := do
  let s ← get
  match s.machine.tree.changeDirectory ⟨textOfRaw path⟩ with
  | .error _ => return false
  | .ok tree =>
      set { s with machine := { s.machine with tree } }
      assignAs true "OLDPWD" s.workPath
      assignAs true "PWD" (← get).workPath
      return true

/- The paths under which a directory is looked for. The path
   itself is the last one, and the others are shown when
   they are taken. -/
def State.directoryPaths (s : State) (dir : String) :
    List (String × Bool) :=
  let searched :=
    match dir.toList with
    | '/' :: _ | '.' :: _ => []
    | _ =>
        (((s.value? "CDPATH").getD "").toList.splitOn ':').filter
          (· ≠ [])
  searched.map (fun front =>
      (String.ofList front ++ "/" ++ dir, true)) ++
    [(dir, false)]

/- Enter the first directory of some that can be entered. -/
def enterFirst (dir : String) :
    List (String × Bool) → Action Nat
  | [] => fail s!"can't cd to {dir}"
  | (path, isShown) :: rest => do
      if ← enterDirectory path then
        if isShown then putLine (← get).workPath
        return 0
      else enterFirst dir rest

/- Change the working directory. -/
def changeDirectory (args : List String) : Action Nat := do
  let (_, operands) ← readFlags ['L', 'P'] [] args
  let s ← get
  match operands with
  | [] =>
      let home := (s.value? "HOME").getD ""
      if home = "" then return 0
      enterFirst home [(home, false)]
  | "-" :: _ =>
      let old := (s.value? "OLDPWD").getD s.workPath
      let status ← enterFirst old [(old, false)]
      putLine (← get).workPath
      return status
  | "" :: _ => return 0
  | dir :: _ => enterFirst dir (s.directoryPaths dir)

/- Print the path of the working directory. -/
def printDirectory (args : List String) : Action Nat := do
  let _ ← readFlags ['L', 'P'] [] args
  putLine (← get).workPath
  return 0

------------------------------------------------------------
-- File Modes
------------------------------------------------------------

/- The three bits of a user class, counted from the last
   one. -/
def modeBits (mode place : Nat) : Nat :=
  mode / eightfold place % 8
where
  /- A power of eight. -/
  eightfold : Nat → Nat
    | 0 => 1
    | n + 1 => 8 * eightfold n

/- Permissions in letters. -/
def modeLetters (bits : Nat) : String :=
  (if 4 ≤ bits then "r" else "") ++
    (if bits / 2 % 2 = 1 then "w" else "") ++
    (if bits % 2 = 1 then "x" else "")

/- The mask of file modes in letters: what is permitted. -/
def maskLetters (mask : Nat) : String :=
  let permitted (place : Nat) : String :=
    modeLetters (7 - modeBits mask place)
  s!"u={permitted 2},g={permitted 1},o={permitted 0}"

/- The mask in octal digits. -/
def maskDigits (mask : Nat) : String :=
  let digits := radixDigits 8 false mask
  String.ofList (List.replicate (4 - digits.length) '0' ++ digits)

/- The bits of a permission letter in all user classes. -/
def permissionBits (c : Char) : Nat :=
  match c with
  | 'r' => 292
  | 'w' => 146
  | 'x' => 73
  | _ => 0

/- The permitted bits after a clause like `u+w`. -/
def applyClause? (permitted : Nat) (clause : List Char) :
    Option Nat :=
  let who := clause.takeWhile (['u', 'g', 'o', 'a'].contains ·)
  let classBits (c : Char) : Nat :=
    match c with
    | 'u' => 448
    | 'g' => 56
    | 'o' => 7
    | _ => 511
  let area :=
    if who.isEmpty then 511
    else who.foldl (fun n c => n ||| classBits c) 0
  match clause.drop who.length with
  | sign :: letters =>
      if letters.all (['r', 'w', 'x', 'X'].contains ·) then
        let bits := area &&&
          letters.foldl (fun n c => n ||| permissionBits c) 0
        match sign with
        | '=' => some ((permitted &&& (511 - area)) ||| bits)
        | '+' => some (permitted ||| bits)
        | '-' => some (permitted &&& (511 - bits))
        | _ => none
      else none
  | [] => none

/- The permitted bits after clauses. -/
def applyClauses? (permitted : Nat) :
    List (List Char) → Option Nat
  | [] => some permitted
  | clause :: rest =>
      (applyClause? permitted clause).bind fun next =>
        applyClauses? next rest

/- Show or change the mask of file modes. -/
def changeMask (args : List String) : Action Nat := do
  let (given, operands) ← readFlags ['S'] [] args
  let s ← get
  match operands with
  | [] =>
      putLine (if hasFlag given 'S' then maskLetters s.mask
        else maskDigits s.mask)
  | text :: _ =>
      if startsWithDigit 10 text.toList then
        match spanRadix 8 text.toList with
        | (mask, []) => set { s with mask := mask % 512 }
        | _ => fail s!"Illegal number: {text}"
      else
        match applyClauses? (511 - s.mask)
            (text.toList.splitOn ',') with
        | some permitted =>
            set { s with mask := 511 - permitted }
        | none => fail s!"Illegal mode: {text}"
  return 0

------------------------------------------------------------
-- Signals
------------------------------------------------------------

/- Send a signal to the shell. A trap waits until the command
   has ended. -/
def signalSelf (signal : Nat) : Action Bool := do
  let s ← get
  let name := Signal.nameOf signal
  match s.traps.lookup name with
  | some action =>
      if signal = 9 then throw (.ended (.killed signal))
      if action ≠ "" then
        set { s with signals := s.signals ++ [name] }
      return true
  | none =>
      if Signal.isHarmless signal then return true
      else throw (.ended (.killed signal))

/- Send a signal to a job. What runs in the background is
   taken to be still running. -/
def signalJob (number signal : Nat) : Action Bool := do
  let s ← get
  if number = s.number then signalSelf signal
  else if s.jobs.any fun j => j.number = number then
    if signal ≠ 0 then
      let jobs := s.jobs.map fun j =>
        if j.number = number then
          { j with ending := .killed signal }
        else j
      set { s with jobs }
    return true
  else return false

/- How signals are sent. -/
def killUsage : String :=
  "Usage: kill [-s sigspec | -signum | -sigspec] " ++
    "[pid | job]... or\nkill -l [exitstatus]"

/- List the names of signals. -/
def listSignals (operands : List String) : Action Nat := do
  match operands with
  | [] =>
      putLine "0"
      Signal.names.tail.forM putLine
      return 0
  | text :: _ =>
      let n ← readNumber text
      let n := if 128 < n then n - 128 else n
      if 0 < n ∧ n < 65 then
        putLine (Signal.nameOf n)
        return 0
      else fail s!"invalid signal number or exit status: {text}"

/- Send a signal to jobs. -/
def sendSignal
    (signal : Nat)
    (targets : List String) : Action Nat := do
  let reached ← targets.mapM fun text => do
    let digits := text.toList.dropWhile (· = '-')
    let number ← readNumber (String.ofList digits)
    if ← signalJob number signal then return true
    else
      warn "No such process\n"
      return false
  return if reached.all id then 0 else 1

/- Send signals or list them. -/
def killJobs (args : List String) : Action Nat := do
  match args with
  | [] => fail killUsage
  | first :: rest =>
      let signal? :=
        match first.toList with
        | '-' :: c :: cs =>
            Signal.ofText? (String.ofList (c :: cs))
        | _ => none
      match signal? with
      | some signal =>
          if rest.isEmpty then fail killUsage
          sendSignal signal rest
      | none =>
          let (given, operands) ← readFlags ['l'] ['s'] args
          match given.reverse.find? fun g => g.1 = 's' with
          | some (_, text) =>
              match Signal.ofText? text with
              | none =>
                  fail
                    s!"invalid signal number or name: {text}"
              | some signal =>
                  if operands.isEmpty then fail killUsage
                  sendSignal signal operands
          | none =>
              if hasFlag given 'l' then listSignals operands
              else if operands.isEmpty then fail killUsage
              else sendSignal 15 operands

/- Set what is done when a signal arrives. The result says
   whether there is such a signal. -/
def setTrap (action : Option String) (text : String) :
    Action Bool := do
  match Signal.ofText? text with
  | none =>
      let _ ← writeRaw 2 s!"trap: {text}: bad trap\n"
      return false
  | some n =>
      modify fun s =>
        let name := Signal.nameOf n
        let others := s.traps.filter fun t => t.1 ≠ name
        { s with
          traps :=
            match action with
            | some text => (name, text) :: others
            | none => others }
      return true

/- Set what is done when one of some signals arrives. -/
def setTrapFor (action : Option String) :
    List String → Action Nat
  | [] => return 0
  | text :: rest => do
      if ← setTrap action text then setTrapFor action rest
      else return 1

/- List what is done when signals arrive. -/
def listTraps : Action Nat := do
  let traps := (← get).traps
  Signal.names.forM fun name => do
    match traps.lookup name with
    | some action =>
        putLine s!"trap -- {singleQuoted action} {name}"
    | none => return ()
  return 0

/- Set what is done when signals arrive, or list it. -/
def setTraps (args : List String) : Action Nat := do
  let (_, operands) ← readFlags [] [] args
  match operands with
  | [] => listTraps
  | [text] => setTrapFor none [text]
  | action :: names =>
      let isNumber := !action.isEmpty &&
        action.toList.all Char.isDigit
      if isNumber then setTrapFor none operands
      else if action = "-" then setTrapFor none names
      else setTrapFor (some action) names

------------------------------------------------------------
-- Jobs
------------------------------------------------------------

/- Tell that a signal has ended a program. -/
def noteEnding (ending : Ending) : Action Unit := do
  match ending with
  | .killed signal =>
      match Signal.notice? signal with
      | some text =>
          let _ ← writeRaw 2 (text ++ "\n")
      | none => return ()
  | .exited _ => return ()

/- Wait for one job. -/
def awaitJob (text : String) : Action Nat := do
  let number ←
    match text.toList with
    | '%' :: digits => do
        let index ← readNumber (String.ofList digits)
        pure ((((← get).jobs.reverse[index - 1]?).map
          Job.number).getD 0)
    | _ => readNumber text
  match (← get).jobs.find? fun j => j.number = number with
  | none => return 127
  | some job =>
      noteEnding job.ending
      modify fun s =>
        { s with
          jobs := s.jobs.filter fun j => j.number ≠ number }
      return job.ending.status

/- Wait for jobs. -/
def awaitJobs (args : List String) : Action Nat := do
  let (_, operands) ← readFlags [] [] args
  if operands.isEmpty then
    (← get).jobs.reverse.forM fun job => noteEnding job.ending
    modify fun s => { s with jobs := [] }
    return 0
  operands.foldlM (fun _ text => awaitJob text) 0

/- The limits that are printed for option letters. -/
def shownLimit (letter : Char) : String :=
  match letter with
  | 'n' => "1048576"
  | 's' => "8192"
  | 'c' => "0"
  | _ => "unlimited"

/- Show a limit of programs. -/
def showLimit (args : List String) : Action Nat := do
  let (given, operands) ←
    readFlags "HSatfdscmlpnvwr".toList [] args
  if operands.isEmpty then
    putLine (shownLimit ((given.getLast?.map Prod.fst).getD 'f'))
  return 0

/- The builtins for directories, jobs and signals. -/
def processBuiltins : Builtins :=
  [ ("cd", { run := changeDirectory }),
    ("chdir", { run := changeDirectory }),
    ("pwd", { run := printDirectory }),
    ("umask", { run := changeMask }),
    ("ulimit", { run := showLimit }),
    ("kill", { run := killJobs }),
    ("wait", { run := awaitJobs }),
    ("trap", { special := true, run := setTraps }),
    ("times",
      { special := true
        run := fun _ => do
          put "0m0.00s 0m0.00s\n0m0.00s 0m0.00s\n"
          return 0 }),
    ("jobs", { run := fun _ => return 0 }),
    ("hash", { run := fun _ => return 0 }),
    ("fg", { run := fun _ => fail "No current job" }),
    ("bg", { run := fun _ => fail "No current job" }),
    ("true", { run := fun _ => return 0 }),
    ("false", { run := fun _ => return 1 }),
    (":", { special := true, run := fun _ => return 0 }) ]

end Shell

end LatencySweep
