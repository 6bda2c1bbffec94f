import LatencySweep.Host.Program.Output

/-
  Programs that create, copy, move, remove and list files.

  Key definitions include:
    * `Program.makeDirectories`
    * `Program.remove`
    * `Program.copy`
    * `Program.moveFiles`
    * `Program.list`
    * `Program.changeMode`
    * `Program.fileTools`
-/

namespace LatencySweep

namespace Program

------------------------------------------------------------
-- Names in Messages
------------------------------------------------------------

/- The name of a file as it stands in messages. -/
def quoteName (name : String) : String :=
  if '\'' ∈ name.toList then "\"" ++ name ++ "\""
  else "'" ++ name ++ "'"

/- Change the tree, or tell what could not be done. The
   result says whether it was done. -/
def attempt
    (call : Call)
    (task : String)
    (f : FileTree → Except OsError FileTree) :
    StateM Machine Bool := do
  match ← Call.change f with
  | .ok _ => return true
  | .error e =>
      call.complain s!"{task}: {e.reason}"
      return false

/- What a path leads to. -/
def lookAt (file : String) :
    StateM Machine
      (Except OsError (FileTree.Target × Entry)) := do
  return (← get).tree.entryAt (Call.pathOf file)

/- A path leads to a directory. -/
def isDirectory (file : String) : StateM Machine Bool := do
  return (← get).tree.isDirectory (Call.pathOf file)

/- The path of a name in a directory. -/
def within (directory name : String) : String :=
  if directory.toList.getLast? = some '/' then directory ++ name
  else directory ++ "/" ++ name

------------------------------------------------------------
-- Directories
------------------------------------------------------------

/- Each front of a path that ends before a separator, and
   the path itself. -/
def pathFronts (path : String) : List String :=
  let trimmed := trimSeparators path.toList
  let ends := (List.range trimmed.length).filter fun n =>
    0 < n && trimmed[n]? = some '/' &&
      trimmed[n - 1]? ≠ some '/'
  (ends.map fun n => String.ofList (trimmed.take n)) ++ [path]

/- Create a directory. -/
def makeDirectory (call : Call) (verbose : Bool)
    (file : String) : StateM Machine Bool := do
  let name := quoteName file
  let done ← attempt call s!"cannot create directory {name}"
    fun tree => tree.createDirectory (Call.pathOf file)
  if done ∧ verbose then
    call.printLine s!"{call.name}: created directory {name}"
  return done

/- Create a directory unless it is there. -/
def ensureDirectory (call : Call) (verbose : Bool)
    (file : String) : StateM Machine Bool := do
  if ← isDirectory file then return true
  else makeDirectory call verbose file

/- Create directories. -/
def makeDirectories : Program :=
  ((OptionTable.ofLetters "pv" "m").withNames
    [('p', "parents"), ('v', "verbose"),
      ('m', "mode")]).program 1 fun call r => do
    if r.operands = [] then call.misuse "missing operand" 1
    else
      forAll 1 r.operands fun file => do
        if r.has 'p' then
          (pathFronts file).foldlM (fun done front => do
            if done then ensureDirectory call (r.has 'v') front
            else return false) true
        else makeDirectory call (r.has 'v') file

/- Remove empty directories. -/
def removeDirectories : Program :=
  ((OptionTable.ofLetters "pv" "").withNames
    [('p', "parents"), ('v', "verbose")]).program 1
    fun call r => do
    if r.operands = [] then call.misuse "missing operand" 1
    else
      forAll 1 r.operands fun file => do
        let files :=
          if r.has 'p' then (pathFronts file).reverse else [file]
        files.foldlM (fun done front => do
          if !done then return false
          let name := quoteName front
          if r.has 'v' then
            call.printLine
              s!"{call.name}: removing directory, {name}"
          attempt call s!"failed to remove {name}"
            fun tree =>
              tree.removeDirectory (Call.pathOf front)) true

------------------------------------------------------------
-- Removing
------------------------------------------------------------

/- The tree without a directory and all that is below it. -/
def removeBelow (tree : FileTree) (place : Location) :
    FileTree :=
  { tree with
    entries := tree.entries.filter fun e =>
      !place.isPrefixOf e.1
    executables := tree.executables.filter fun p =>
      !place.isPrefixOf p }

/- Remove one file, or a directory if this is wanted. -/
def removeOne (call : Call) (r : ReadOptions)
    (file : String) : StateM Machine Bool := do
  let name := quoteName file
  let deep := r.has 'r' || r.has 'R'
  let base := baseName file
  match ← lookAt file with
  | .error e =>
      if r.has 'f' ∧ (e = .notFound ∨ e = .notDirectory) then
        return true
      call.complain s!"cannot remove {name}: {e.reason}"
      return false
  | .ok (target, .directory) =>
      if deep ∧ (base = "." ∨ base = "..") then
        call.complain
          ("refusing to remove '.' or '..' directory: " ++
            s!"skipping {name}")
        return false
      else if deep then
        attempt call s!"cannot remove {name}" fun tree =>
          .ok (removeBelow tree target.location)
      else if r.has 'd' then
        attempt call s!"cannot remove {name}" fun tree =>
          tree.removeDirectory (Call.pathOf file)
      else
        call.complain
          s!"cannot remove {name}: {OsError.isDirectory.reason}"
        return false
  | .ok (_, .file _) =>
      let done ← attempt call s!"cannot remove {name}"
        fun tree => tree.removeFile (Call.pathOf file)
      if done ∧ r.has 'v' then call.printLine s!"removed {name}"
      return done

/- Remove files. -/
def remove : Program :=
  ((OptionTable.ofLetters "rRfdiIv" "").withNames
    [('r', "recursive"), ('f', "force"), ('d', "dir"),
      ('v', "verbose")]).program 1 fun call r => do
    if r.operands = [] ∧ !r.has 'f' then
      call.misuse "missing operand" 1
    else forAll 1 r.operands (removeOne call r)

/- Remove a single file. -/
def unlink : Program :=
  (OptionTable.ofLetters "" "").program 1 fun call r => do
    match r.operands with
    | [] => call.misuse "missing operand" 1
    | [file] =>
        forAll 1 [file] fun file =>
          attempt call s!"cannot unlink {quoteName file}"
            fun tree => tree.removeFile (Call.pathOf file)
    | _ :: extra :: _ =>
        call.misuse s!"extra operand {quoteName extra}" 1

------------------------------------------------------------
-- Creating
------------------------------------------------------------

/- Create files that are missing. -/
def touch : Program :=
  ((OptionTable.ofLetters "acm" "drt").withNames
    [('c', "no-create"), ('d', "date"), ('r', "reference")]
    ).program 1 fun call r => do
    if r.operands = [] then
      call.misuse "missing file operand" 1
    else
      forAll 1 r.operands fun file => do
        if ← isDirectory file then return true
        if r.has 'c' then return true
        attempt call s!"cannot touch {quoteName file}"
          fun tree => tree.append (Call.pathOf file) []

/- Give files a size. -/
def truncate : Program :=
  ((OptionTable.ofLetters "c" "s").withNames
    [('s', "size"), ('c', "no-create")]).program 1
    fun call r => do
    match (r.value? 's').bind fun v => natural? v.toList with
    | none => call.misuse "you must specify '--size'" 1
    | some size =>
        forAll 1 r.operands fun file =>
          attempt call s!"cannot open {quoteName file}"
            fun tree =>
              let old := (tree.read (Call.pathOf file)).toOption
              let content := (old.getD []).take size
              tree.write (Call.pathOf file)
                (content ++
                  List.replicate (size - content.length) 0)

------------------------------------------------------------
-- Copying and Moving
------------------------------------------------------------

/- The tree with the content of a directory copied to another
   place. -/
def copyBelow
    (tree : FileTree)
    (source target : Location) : FileTree :=
  let copied (place : Location) : Location :=
    target ++ place.drop source.length
  let inside := tree.entries.filter fun e =>
    source.isPrefixOf e.1
  let marked := tree.executables.filter fun p =>
    source.isPrefixOf p
  let filled := inside.foldr
    (fun e tree => tree.put (copied e.1) e.2) tree
  marked.foldl
    (fun tree p => tree.setExecutable (copied p) true) filled

/- Copy one file or directory to a path. -/
def copyOne (call : Call) (r : ReadOptions)
    (file target : String) : StateM Machine Bool := do
  let name := quoteName file
  match ← lookAt file with
  | .error e =>
      call.complain s!"cannot stat {name}: {e.reason}"
      return false
  | .ok (source, .directory) =>
      if !(r.has 'r' || r.has 'R' || r.has 'a') then
        call.complain
          s!"-r not specified; omitting directory {name}"
        return false
      else
        let task :=
          s!"cannot create directory {quoteName target}"
        match (← get).tree.locate (Call.pathOf target) with
        | .error e =>
            call.complain s!"{task}: {e.reason}"
            return false
        | .ok place =>
            if source.location.isPrefixOf place.location then
              call.complain
                (s!"cannot copy a directory, {name}, into " ++
                  s!"itself, {quoteName target}")
              return false
            else
              attempt call task fun tree =>
                .ok (copyBelow tree source.location
                  place.location)
  | .ok (source, .file content) =>
      let same ← lookAt target
      let isSame : Bool := match same with
        | .ok (other, _) => source.location = other.location
        | .error _ => false
      if isSame then
        call.complain
          s!"{name} and {quoteName target} are the same file"
        return false
      else if r.has 'n' ∧ same.toBool then return true
      else
        let trailing := target.toList.getLast? = some '/'
        let done ←
          attempt call
            s!"cannot create regular file {quoteName target}"
            fun tree =>
              if trailing then .error .notDirectory
              else
                match tree.write (Call.pathOf target) content with
                | .error e => .error e
                | .ok tree =>
                    match tree.locate (Call.pathOf target) with
                    | .error e => .error e
                    | .ok place =>
                        if tree.isMarked source.location then
                          .ok (tree.setExecutable
                            place.location true)
                        else .ok tree
        if done ∧ r.has 'v' then
          call.printLine s!"{name} -> {quoteName target}"
        return done

/- Move one file or directory to a path. -/
def moveOne (call : Call) (r : ReadOptions)
    (file target : String) : StateM Machine Bool := do
  let (name, goal) := (quoteName file, quoteName target)
  match ← lookAt file, ← lookAt target with
  | .error e, _ =>
      call.complain s!"cannot stat {name}: {e.reason}"
      return false
  | .ok (source, entry), there =>
      let isSame : Bool := match there with
        | .ok (other, _) => source.location = other.location
        | .error _ => false
      let isBelow : Bool :=
        match (← get).tree.locate (Call.pathOf target) with
        | .ok place =>
            source.location.isPrefixOf place.location
        | .error _ => false
      if isSame then
        call.complain s!"{name} and {goal} are the same file"
        return false
      else if isBelow then
        call.complain
          (s!"cannot move {name} to a subdirectory of " ++
            s!"itself, {goal}")
        return false
      else if r.has 'n' ∧ there.toBool then return true
      else
        match entry, there with
        | .file _, .ok (_, .directory) =>
            call.complain
              (s!"cannot overwrite directory {goal} with " ++
                "non-directory")
            return false
        | .directory, .ok (_, .file _) =>
            call.complain
              (s!"cannot overwrite non-directory {goal} with " ++
                s!"directory {name}")
            return false
        | _, _ =>
            let done ← attempt call
              s!"cannot move {name} to {goal}" fun tree =>
                tree.rename (Call.pathOf file)
                  (Call.pathOf target)
            if done ∧ r.has 'v' then
              call.printLine s!"renamed {name} -> {goal}"
            return done

/- Copy or move files to a path, or into a directory. -/
def transfer
    (one : Call → ReadOptions → String → String →
      StateM Machine Bool)
    (call : Call)
    (r : ReadOptions) : StateM Machine Ending := do
  let (files, target) : List String × Option String :=
    match r.value? 't' with
    | some directory => (r.operands, some directory)
    | none => (r.operands.dropLast, r.operands.getLast?)
  match files, target with
  | _, none => call.misuse "missing file operand" 1
  | [], some file =>
      call.misuse
        ("missing destination file operand after " ++
          quoteName file) 1
  | files, some target =>
      if (← isDirectory target) ∧ !r.has 'T' then
        forAll 1 files fun file =>
          one call r file (within target (baseName file))
      else
        match files with
        | [file] => forAll 1 [file] fun f => one call r f target
        | _ =>
            let reason :=
              match ← lookAt target with
              | .error e => e.reason
              | .ok _ => OsError.notDirectory.reason
            call.complain
              s!"target {quoteName target}: {reason}"
            return .exited 1

/- The options of programs that copy and move. -/
def transferOptions : OptionTable :=
  (OptionTable.ofLetters "rRapfvnTuiLPdlHx" "t").withNames
    [('r', "recursive"), ('a', "archive"), ('f', "force"),
      ('v', "verbose"), ('n', "no-clobber"),
      ('t', "target-directory"), ('T', "no-target-directory")]

/- Copy files. -/
def copy : Program :=
  transferOptions.program 1 (transfer copyOne)

/- Move files. -/
def moveFiles : Program :=
  transferOptions.program 1 (transfer moveOne)

/- Give files a second path with the same content. -/
def link : Program :=
  (OptionTable.ofLetters "fv" "").program 1 fun call r => do
    match r.operands with
    | [] => call.misuse "missing file operand" 1
    | [file] =>
        let name := baseName file
        forAll 1 [file] fun file => copyOne call r file name
    | file :: target :: _ =>
        match ← lookAt file with
        | .error e =>
            call.complain
              s!"failed to access {quoteName file}: {e.reason}"
            return .exited 1
        | .ok _ =>
            let target ←
              if ← isDirectory target then
                pure (within target (baseName file))
              else pure target
            if (← lookAt target).toBool ∧ !r.has 'f' then
              call.complain
                (s!"failed to create hard link " ++
                  s!"{quoteName target}: " ++
                  OsError.alreadyExists.reason)
              return .exited 1
            else
              forAll 1 [file] fun file =>
                copyOne call r file target

------------------------------------------------------------
-- Modes
------------------------------------------------------------

/- Whether a mode in digits allows to execute a file. -/
def octalMode? (word : String) : Option Bool :=
  if word ≠ "" ∧ word.toList.all fun c => '0' ≤ c && c ≤ '7'
  then
    some (word.toList.any fun c => (c.toNat - '0'.toNat) % 2 = 1)
  else none

/- What one clause of a mode in letters does to the mark of
   an executable file. -/
def modeClause? (old : Bool) (clause : List Char) :
    Option Bool :=
  let isWho (c : Char) : Bool := c ∈ ['u', 'g', 'o', 'a']
  match clause.dropWhile isWho with
  | operator :: letters =>
      if letters.all fun c =>
          c ∈ ['r', 'w', 'x', 'X', 's', 't', 'u', 'g', 'o'] then
        let marks := letters.contains 'x'
        if operator = '+' then some (old || marks)
        else if operator = '-' then some (old && !marks)
        else if operator = '=' then some marks
        else none
      else none
  | [] => none

/- What a mode does to the mark of an executable file. -/
def mode? (word : String) (old : Bool) : Option Bool :=
  match octalMode? word with
  | some executable => some executable
  | none =>
      (word.toList.splitOn ',').foldl
        (fun mark clause =>
          mark.bind fun old => modeClause? old clause)
        (some old)

/- A word like `-x` is a mode and no option. -/
def isModeWord (word : String) : Bool :=
  match word.toList with
  | '-' :: c :: _ => c ∈ ['r', 'w', 'x']
  | _ => false

/- Change the modes of files. -/
def changeMode : Program := fun call => do
  let isOption (w : String) : Bool :=
    w.toList.head? = some '-' && !isModeWord w && w ≠ "-"
  let words := call.args.filter (!isOption ·)
  match words with
  | [] => call.misuse "missing operand" 1
  | [mode] =>
      call.misuse s!"missing operand after {quoteName mode}" 1
  | mode :: files =>
      if (mode? mode false).isNone then
        call.misuse s!"invalid mode: {quoteName mode}" 1
      else
        forAll 1 files fun file => do
          match ← lookAt file with
          | .error e =>
              call.complain
                s!"cannot access {quoteName file}: {e.reason}"
              return false
          | .ok (_, .directory) => return true
          | .ok (target, .file _) =>
              modify fun m =>
                let old := m.tree.isMarked target.location
                { m with
                  tree := m.tree.setExecutable target.location
                    ((mode? mode old).getD old) }
              return true

------------------------------------------------------------
-- Listing
------------------------------------------------------------

/- A name with a mark that tells what it is. -/
def markedName
    (r : ReadOptions)
    (tree : FileTree)
    (place : Location)
    (name : String) : String :=
  match tree.find? place with
  | some .directory =>
      if r.has 'F' ∨ r.has 'p' then name ++ "/" else name
  | some (.file _) =>
      if r.has 'F' ∧ tree.isMarked place then name ++ "*"
      else name
  | none => name

/- The names in a directory that options ask for. -/
def listedNames
    (r : ReadOptions)
    (tree : FileTree)
    (place : Location) : List String :=
  let isHidden (name : String) : Bool :=
    name.toList.head? = some '.'
  let names := tree.children place
  let shown :=
    if r.has 'a' ∨ r.has 'A' then names
    else names.filter (!isHidden ·)
  let plain := shown.map fun name =>
    rawOfText (markedName r tree (place ++ [name]) name)
  let dots :=
    if r.has 'a' then
      if r.has 'F' ∨ r.has 'p' then ["./", "../"] else [".", ".."]
    else []
  let all := dots ++ plain
  if r.has 'r' then all.reverse else all

/- The directories below one, in the order in which they are
   listed. -/
def directoriesBelow
    (tree : FileTree)
    (path : String)
    (place : Location) : List (String × Location) :=
  let inside := tree.entries.filter fun e =>
    e.2 = .directory && place.isPrefixOf e.1 && e.1 ≠ place
  let ordered := inside.mergeSort fun a b =>
    FileTree.locationLe a.1 b.1
  (path, place) :: ordered.map fun e =>
    (within path
      (rawOfText
        (String.intercalate "/" (e.1.drop place.length))), e.1)

/- Print files, and the content of directories. -/
def list : Program :=
  ((OptionTable.ofLetters "1aAdRFprltShnfUCxmqgGoisk" "").withNames
    [('a', "all"), ('A', "almost-all"), ('d', "directory"),
      ('R', "recursive"), ('r', "reverse")]).program 2
    fun call r => do
    let words := if r.operands = [] then ["."] else r.operands
    let sorted := words.mergeSort fun a b =>
      if r.has 'r' then decide (b ≤ a) else decide (a ≤ b)
    let found ← words.mapM fun file => do
      match ← lookAt file with
      | .error e =>
          call.complain
            s!"cannot access {quoteName file}: {e.reason}"
          return false
      | .ok _ => return true
    let tree := (← get).tree
    let entries := sorted.filterMap fun file =>
      (tree.entryAt (Call.pathOf file)).toOption.map fun e =>
        (file, e.1.location, e.2)
    let isListed (e : String × Location × Entry) : Bool :=
      e.2.2 = .directory && !r.has 'd'
    let files := entries.filter (!isListed ·)
    let directories := (entries.filter isListed).map fun e =>
      (e.1, e.2.1)
    let directories :=
      if r.has 'R' then
        directories.flatMap fun d =>
          directoriesBelow tree d.1 d.2
      else directories
    let titled := 1 < words.length || r.has 'R'
    files.forM fun e =>
      call.printLine (markedName r tree e.2.1 e.1)
    (directories.zip (List.range directories.length)).forM
      fun d => do
        if files ≠ [] ∨ d.2 ≠ 0 then call.print "\n"
        if titled then call.printLine s!"{d.1.1}:"
        (listedNames r tree d.1.2).forM call.printLine
    return .exited (if found.all id then 0 else 2)

/- Print the full paths of files. -/
def fullPaths (missing : Call → String → OsError →
      StateM Machine Unit) : Program :=
  (OptionTable.ofLetters "femqsn" "").program 1 fun call r => do
    if r.operands = [] then call.misuse "missing operand" 1
    else
      forAll 1 r.operands fun file => do
        match (← get).tree.locate (Call.pathOf file) with
        | .error e =>
            missing call file e
            return false
        | .ok target =>
            let path := String.intercalate "/" target.location
            call.printLine (rawOfText ("/" ++ path))
            return true

/- The programs for files. -/
def fileTools : Table :=
  [ ("mkdir", makeDirectories),
    ("rmdir", removeDirectories),
    ("rm", remove),
    ("unlink", unlink),
    ("touch", touch),
    ("truncate", truncate),
    ("cp", copy),
    ("mv", moveFiles),
    ("ln", link),
    ("chmod", changeMode),
    ("ls", list),
    ("realpath",
      fullPaths fun call file e =>
        call.complain (s!"{file}: {e.reason}")),
    ("readlink", fullPaths fun _ _ _ => return ()) ]

end Program

end LatencySweep
