import LatencySweep.Host.Machine

/-
  Programs that a machine can start.

  A program is started with arguments, an environment and
  descriptors. It changes the machine and ends with an exit
  code or by a signal. All words are raw texts.

  The tools and the shell in the modules below stand in for
  those of a real machine, so that runs of small programs
  can be followed. Nothing is proved about them, and no
  theorem is about the host that has them: what is proved
  about a runner holds for every one.

  Key definitions include:
    * `Call`
    * `Ending`
    * `Program`
    * `Program.Table`
-/

namespace LatencySweep

------------------------------------------------------------
-- Calls and Endings
------------------------------------------------------------

/- What a program is started with. -/
structure Call where
  name : String
  args : List String
  environment : List (String × String) := []
  descriptors : Descriptors := []

/- How a program ended. -/
inductive Ending where
  | exited (code : Nat)
  | killed (signal : Nat)
  deriving DecidableEq

namespace Ending

/- The exit code, unless a signal ended the program. -/
def exitCode? : Ending → Option Nat
  | exited code => some code
  | killed _ => none

/- The ending as the status of a command. -/
def status : Ending → Nat
  | exited code => code
  | killed signal => 128 + signal

end Ending

/- A program. -/
abbrev Program := Call → StateM Machine Ending

/- Programs under their names. -/
abbrev Program.Table := List (String × Program)

------------------------------------------------------------
-- Reading and Writing
------------------------------------------------------------

namespace Call

/- The path that a word stands for. -/
def pathOf (word : String) : Path := ⟨textOfRaw word⟩

/- Write raw text to a descriptor. What cannot be written is
   lost. -/
def writeTo
    (call : Call)
    (fd : Nat)
    (raw : String) : StateM Machine Unit :=
  modify fun m =>
    match m.write call.descriptors fd (Bytes.ofRaw raw) with
    | .ok m => m
    | .error _ => m

/- Write raw text to the standard output. -/
def print (call : Call) (raw : String) : StateM Machine Unit :=
  call.writeTo 1 raw

/- Write a line to the standard output. -/
def printLine
    (call : Call)
    (line : String) : StateM Machine Unit :=
  call.print (line ++ "\n")

/- Tell about a problem in a line of its own, behind the
   name of the program. -/
def complain
    (call : Call)
    (problem : String) : StateM Machine Unit :=
  call.writeTo 2 s!"{call.name}: {problem}\n"

/- Tell how to find help. -/
def hint (call : Call) : StateM Machine Unit :=
  call.writeTo 2
    s!"Try '{call.name} --help' for more information.\n"

/- End the program because of how it was called. -/
def misuse
    (call : Call)
    (problem : String)
    (code : Nat) : StateM Machine Ending := do
  call.complain problem
  call.hint
  return .exited code

/- Everything that is left on the standard input. -/
def readInput
    (call : Call) :
    StateM Machine (Except OsError String) := fun m =>
  match m.readAll call.descriptors 0 with
  | .error e => (.error e, m)
  | .ok (bytes, m) => (.ok (Bytes.toRaw bytes), m)

/- The content of a file, or of the standard input for a
   dash. -/
def readFile
    (call : Call)
    (file : String) :
    StateM Machine (Except OsError String) := fun m =>
  if file = "-" then call.readInput m
  else
    match m.openPath call.descriptors .read (pathOf file) with
    | .error e => (.error e, m)
    | .ok (number, m) =>
        match m.readAll [(0, number)] 0 with
        | .error e => (.error e, m)
        | .ok (bytes, m) => (.ok (Bytes.toRaw bytes), m)

/- Replace the content of a file. -/
def writeFile
    (call : Call)
    (mode : OpenMode)
    (file content : String) :
    StateM Machine (Except OsError Unit) := fun m =>
  match m.openPath call.descriptors mode (pathOf file) with
  | .error e => (.error e, m)
  | .ok (number, m) =>
      match m.writeTo number (Bytes.ofRaw content) with
      | .error e => (.error e, m)
      | .ok m => (.ok (), m)

/- Change the tree unless this fails. -/
def change
    (f : FileTree → Except OsError FileTree) :
    StateM Machine (Except OsError Unit) := fun m =>
  match f m.tree with
  | .error e => (.error e, m)
  | .ok tree => (.ok (), { m with tree := tree })

end Call

------------------------------------------------------------
-- Endings of Programs
------------------------------------------------------------

namespace Program

/- Do something for each of some words, and end with the
   given code if it failed for one of them. -/
def forAll
    (failureCode : Nat)
    (words : List String)
    (act : String → StateM Machine Bool) :
    StateM Machine Ending := do
  let done ← words.mapM act
  return .exited (if done.all id then 0 else failureCode)

/- A program that does nothing but exit. -/
def exitWith (code : Nat) : Program :=
  fun _ => return .exited code

end Program

end LatencySweep
