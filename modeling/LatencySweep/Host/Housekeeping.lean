import LatencySweep.Host.FileTree

/-
  Entries that are removed, moved, marked and entered.

  Key definitions include:
    * `FileTree.children`
    * `FileTree.changeDirectory`
    * `FileTree.removeFile`
    * `FileTree.removeDirectory`
    * `FileTree.rename`
    * `FileTree.setExecutable`
-/

namespace LatencySweep

namespace FileTree

------------------------------------------------------------
-- Looking
------------------------------------------------------------

/- What a path leads to. -/
def entryAt
    (tree : FileTree)
    (path : Path) : Except OsError (Target × Entry) :=
  match tree.locate path with
  | .error e => .error e
  | .ok target =>
      match tree.find? target.location with
      | none => .error .notFound
      | some .directory => .ok (target, .directory)
      | some (.file content) =>
          if target.closed then .error .notDirectory
          else .ok (target, .file content)

/- The path leads to a file or directory. -/
def holds (tree : FileTree) (path : Path) : Bool :=
  match tree.entryAt path with
  | .ok _ => true
  | .error _ => false

/- The name of an entry that stands in a directory. -/
def childName?
    (directory : Location)
    (entry : Location × Entry) : Option String :=
  match entry.1.drop directory.length with
  | [name] =>
      if directory ++ [name] = entry.1 then some name
      else none
  | _ => none

/- The names in a directory, in order. -/
def children
    (tree : FileTree)
    (directory : Location) : List String :=
  (tree.entries.filterMap (childName? directory)).mergeSort
    fun a b => decide (a ≤ b)

/- The tree with another working directory. -/
def changeDirectory
    (tree : FileTree)
    (path : Path) : Except OsError FileTree :=
  match tree.entryAt path with
  | .error e => .error e
  | .ok (_, .file _) => .error .notDirectory
  | .ok (target, .directory) =>
      .ok { tree with workDir := target.location }

/- The path of the working directory. -/
def workPath (tree : FileTree) : Path :=
  ⟨"/" ++ String.intercalate "/" tree.workDir⟩

------------------------------------------------------------
-- Removing
------------------------------------------------------------

/- The tree without what stands at a location. -/
def drop (tree : FileTree) (place : Location) : FileTree :=
  { tree with
    entries := tree.entries.filter fun e => e.1 ≠ place
    executables := tree.executables.filter (· ≠ place) }

/- Remove a file. -/
def removeFile
    (tree : FileTree)
    (path : Path) : Except OsError FileTree :=
  match tree.entryAt path with
  | .error e => .error e
  | .ok (_, .directory) => .error .isDirectory
  | .ok (target, .file _) => .ok (tree.drop target.location)

/- Remove an empty directory. -/
def removeDirectory
    (tree : FileTree)
    (path : Path) : Except OsError FileTree :=
  match tree.entryAt path with
  | .error e => .error e
  | .ok (_, .file _) => .error .notDirectory
  | .ok (target, .directory) =>
      if !target.named then .error .invalidArgument
      else if tree.children target.location ≠ [] then
        .error .notEmpty
      else .ok (tree.drop target.location)

------------------------------------------------------------
-- Moving
------------------------------------------------------------

/- A location after its front was moved. -/
def moved
    (source target place : Location) : Location :=
  if source.isPrefixOf place then
    target ++ place.drop source.length
  else place

/- The tree with everything at and below one location moved
   to another one. -/
def move
    (tree : FileTree)
    (source target : Location) : FileTree :=
  let cleared := tree.drop target
  { cleared with
    entries :=
      cleared.entries.map fun e =>
        (moved source target e.1, e.2)
    executables :=
      cleared.executables.map (moved source target) }

/- Why an entry may not take the place of another one. -/
def replaceFault?
    (tree : FileTree)
    (source : Entry)
    (place : Location) : Option OsError :=
  match source, tree.find? place with
  | _, none => none
  | .file _, some (.file _) => none
  | .file _, some .directory => some .isDirectory
  | .directory, some (.file _) => some .notDirectory
  | .directory, some .directory =>
      if tree.children place = [] then none
      else some .notEmpty

/- Give an entry another path. -/
def rename
    (tree : FileTree)
    (source target : Path) : Except OsError FileTree :=
  match tree.entryAt source, tree.locate target with
  | .error e, _ => .error e
  | _, .error e => .error e
  | .ok (old, entry), .ok new =>
      if old.location = new.location then .ok tree
      else if old.location.isPrefixOf new.location then
        .error .invalidArgument
      else if new.closed && entry ≠ .directory then
        .error .notDirectory
      else
        match tree.replaceFault? entry new.location with
        | some e => .error e
        | none => .ok (tree.move old.location new.location)

------------------------------------------------------------
-- Executable Files
------------------------------------------------------------

/- The file at a location is marked as executable. -/
def isMarked (tree : FileTree) (place : Location) : Bool :=
  place ∈ tree.executables

/- The path leads to a file that may be executed, or to a
   directory that may be entered. -/
def isExecutable (tree : FileTree) (path : Path) : Bool :=
  match tree.entryAt path with
  | .ok (_, .directory) => true
  | .ok (target, .file _) => tree.isMarked target.location
  | .error _ => false

/- The tree with a file marked as executable or not. -/
def setExecutable
    (tree : FileTree)
    (place : Location)
    (executable : Bool) : FileTree :=
  let others := tree.executables.filter (· ≠ place)
  { tree with
    executables := if executable then place :: others
      else others }

end FileTree

end LatencySweep
