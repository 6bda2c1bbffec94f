import LatencySweep.Host.Shell.Launch
import LatencySweep.Host.World

/-
  A runner that starts the programs of a host.

  The log file is opened before the program is looked for,
  so a program that cannot be started leaves a log file
  behind, too. Both outputs of a program are added to the
  end of its log file. Time does not pass on this host.

  Programs are files whose content names them. A file that
  may be executed can instead name an interpreter, which is
  then started with the path of the file. Which programs
  there are is left to the host.

  Key definitions include:
    * `Host`
    * `Host.startTree`
    * `Host.launcher`
    * `Host.runner`
-/

namespace LatencySweep

/- A host with programs, of which some start others. Tools
   are found by their names, but only by runs. -/
structure Host where
  programs : Launcher → Program.Table
  tools : Program.Table

namespace Host

------------------------------------------------------------
-- Files of the Host
------------------------------------------------------------

/- The directories in which the programs stand. -/
def programDirectories : List Location :=
  [["usr", "bin"], ["bin"]]

/- Other directories of the host. -/
def otherDirectories : List Location :=
  [ ["dev"], ["etc"], ["home"], ["opt"], ["proc"], ["root"],
    ["run"], ["sbin"], ["srv"], ["sys"], ["tmp"], ["usr"],
    ["usr", "lib"], ["usr", "local"],
    ["usr", "local", "bin"], ["usr", "local", "sbin"],
    ["usr", "sbin"], ["usr", "share"], ["var"],
    ["var", "log"], ["var", "tmp"] ]

/- What the file of a program starts with. -/
def programMark : String := "\x7fELF"

/- The content of the file of a program. -/
def programContent (name : String) : Bytes :=
  Bytes.ofText (programMark ++ name)

/- The program that the content of a file names. -/
def programOf? (text : String) : Option String :=
  if programMark.toList.isPrefixOf text.toList then
    some (String.ofList (text.toList.drop programMark.length))
  else none

/- The files of the programs. -/
def programFiles (host : Host) : List (Location × Entry) :=
  programDirectories.flatMap fun dir =>
    (host.programs Launcher.empty).map fun program =>
      (dir ++ [program.1], .file (programContent program.1))

/- A file tree with nothing but the programs and an empty
   working directory. -/
def startTree (host : Host) : FileTree :=
  let files := host.programFiles
  let dirs := programDirectories ++ otherDirectories
  { FileTree.empty with
    entries :=
      FileTree.empty.entries ++
        dirs.map (fun dir => (dir, .directory)) ++ files
    executables := files.map Prod.fst }

------------------------------------------------------------
-- Starting Programs
------------------------------------------------------------

/- The interpreter that a script names in its first line,
   with at most one argument. -/
def interpreter? (text : List Char) : Option (List String) :=
  match text with
  | '#' :: '!' :: rest =>
      let isBlankAt (c : Char) : Bool := c = ' ' || c = '\t'
      let line := (rest.takeWhile (· ≠ '\n')).dropWhile isBlankAt
      let path := line.takeWhile (!isBlankAt ·)
      let behind := line.drop path.length
      let arg :=
        ((behind.dropWhile isBlankAt).reverse.dropWhile
          isBlankAt).reverse
      if path = [] then none
      else if arg = [] then some [String.ofList path]
      else some [String.ofList path, String.ofList arg]
  | _ => none

/- The text of a file that may be executed. -/
def executableText
    (tree : FileTree)
    (path : String) : Except OsError String :=
  match tree.entryAt (Call.pathOf path) with
  | .error e => .error e
  | .ok (_, .directory) => .error .permissionDenied
  | .ok (_, .file content) =>
      if tree.isExecutable (Call.pathOf path) then
        .ok (Bytes.toRaw content)
      else .error .permissionDenied

/- Start what stands at a path. A script is started through
   its interpreter, which may be a script again; the first
   argument bounds how often. -/
def startAt (programs : Program.Table) :
    Nat → String → Call → StateM Machine (Except OsError Ending)
  | 0, _, _ => return .error (.other "Too many levels")
  | n + 1, path, call => do
      match executableText (← get).tree path with
      | .error e => return .error e
      | .ok text =>
          match programOf? text, interpreter? text.toList with
          | some name, _ =>
              match programs.lookup name with
              | some program => return .ok (← program call)
              | none => return .error .badFormat
          | none, some (interpreter :: args) =>
              startAt programs n interpreter
                { call with
                  name := interpreter
                  args := args ++ path :: call.args }
          | none, _ => return .error .badFormat

/- The launcher of a host, with programs that start others
   up to a depth. -/
def launcher (host : Host) : Nat → Launcher
  | 0 => .empty
  | n + 1 =>
      { start := startAt (host.programs (launcher host n)) 5 }

/- How deep programs start other ones. -/
def launchDepth : Nat := 12

/- The variables that programs find. -/
def environment : List (String × String) :=
  [("PATH", Shell.defaultSearchPath), ("HOME", "/root")]

/- The program that a name without a separator stands
   for. -/
def startNamed
    (host : Host)
    (call : Call) :
    StateM Machine (Except OsError Ending) := do
  let launcher := host.launcher launchDepth
  if Call.pathOf call.name = ⟨"."⟩ ∨
      Call.pathOf call.name = ⟨".."⟩ then
    return .error .permissionDenied
  else if FileTree.maxName < call.name.length then
    return .error .nameTooLong
  else
    let dirs := (Shell.defaultSearchPath.toList.splitOn ':').map
      String.ofList
    match searchProgram? (← get).tree dirs call.name with
    | some path => launcher.start path call
    | none =>
        match host.tools.lookup call.name with
        | some program => return .ok (← program call)
        | none => return .error .notFound

/- Start the program of a call. -/
def start
    (host : Host)
    (call : Call) : StateM Machine (Except OsError Ending) :=
  if (call.name :: call.args).any (·.toList.contains '\x00') then
    return .error .nulInProgram
  else if call.name.toList.contains Path.separator then
    (host.launcher launchDepth).start call.name call
  else host.startNamed call

------------------------------------------------------------
-- Runs
------------------------------------------------------------

/- Start the program of an invocation whose log file is
   open. -/
def startLogged
    (host : Host)
    (invocation : Invocation)
    (tree : FileTree) : Except OsError Outcome × FileTree :=
  match ({ tree : Machine }).openPath [] .append
      invocation.logPath with
  | .error cause => (.error cause, tree)
  | .ok (log, machine) =>
      let (input, machine) := machine.addChannel .null
      let call : Call :=
        { name := rawOfText invocation.program
          args := invocation.args.map rawOfText
          environment
          descriptors := [(0, input), (1, log), (2, log)] }
      let (result, machine) := host.start call machine
      let after := { machine.tree with workDir := tree.workDir }
      match result with
      | .error cause => (.error cause, after)
      | .ok ending =>
          (.ok
            { exitCode := ending.exitCode?.map Int.ofNat
              duration := ⟨0⟩
              logPath := invocation.logPath },
            after)

/- The runner that starts the programs of a host. -/
def runner (host : Host) : Runner Unit where
  run invocation tree programs :=
    match tree.append invocation.logPath [] with
    | .error cause =>
        { result := .error cause, tree, programs, messages := [] }
    | .ok _ =>
        let (result, tree) := host.startLogged invocation tree
        { result, tree, programs
          messages := [(.trace, s!"spawning {invocation}")] }

end Host

end LatencySweep
