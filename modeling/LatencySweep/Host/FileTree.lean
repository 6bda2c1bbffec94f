import LatencySweep.Host.OsError
import LatencySweep.Host.Path
import LatencySweep.Text.Utf8

/-
  A file system as a value.

  A tree assigns a directory or a file to locations, which
  are lists of names from the root. Relative paths start at
  the working directory. Operations return the new tree or
  the failure that leaves it as it was.

  There are no links, neither symbolic nor hard ones, so an
  entry has one location only, and a change at one location
  is not seen at another. Names and paths are texts, and
  bytes that are not UTF-8 cannot stand in them.

  Key definitions include:
    * `Location`
    * `FileTree`
    * `FileTree.locate`
    * `FileTree.read`
    * `FileTree.write`
    * `FileTree.append`
    * `FileTree.createDirectory`
    * `FileTree.createDirectories`
    * `FileTree.listing`
-/

namespace LatencySweep

/- A place in the tree: names from the root on. -/
abbrev Location := List String

/- What stands at a location. -/
inductive Entry where
  | directory
  | file (content : Bytes)
  deriving DecidableEq

/- A file system without links and with a working directory.
   Files that are marked as executable are listed. -/
structure FileTree where
  workDir : Location
  entries : List (Location × Entry)
  executables : List Location := []
  deriving DecidableEq

namespace FileTree

------------------------------------------------------------
-- Entries
------------------------------------------------------------

/- A tree with nothing but a working directory. -/
def empty : FileTree :=
  { workDir := ["work"]
    entries := [(["work"], .directory)] }

/- What stands at a location. The root is a directory. -/
def find? (tree : FileTree) (place : Location) : Option Entry :=
  if place = [] then some .directory
  else
    (tree.entries.find? fun e => e.1 = place).map Prod.snd

/- The tree with an entry put at a location. -/
def put
    (tree : FileTree)
    (place : Location)
    (entry : Entry) : FileTree :=
  { tree with
    entries :=
      (place, entry) ::
        tree.entries.filter (fun e => e.1 ≠ place) }

theorem find?_put_self
    (tree : FileTree) {place : Location} (entry : Entry)
    (h : place ≠ []) :
    (tree.put place entry).find? place = some entry := by
  simp [find?, put, h]

theorem find?_put_of_ne
    (tree : FileTree) {place other : Location} (entry : Entry)
    (h : other ≠ place) :
    (tree.put place entry).find? other = tree.find? other := by
  have hBoth (e : Location × Entry) :
      (e.1 ≠ place ∧ e.1 = other) ↔ e.1 = other := by
    constructor
    · exact And.right
    · intro hEq
      exact ⟨fun hPlace => h (hEq.symm.trans hPlace), hEq⟩
  have hFind :
      (tree.put place entry).entries.find?
          (fun e => e.1 = other) =
        tree.entries.find? (fun e => e.1 = other) := by
    rw [put, List.find?_cons_of_neg (by simpa using h.symm),
      List.find?_filter]
    simp only [decide_eq_true_eq, hBoth]
  unfold find?
  rw [hFind]

------------------------------------------------------------
-- Finding Places
------------------------------------------------------------

/- The longest name in bytes. -/
def maxName : Nat := 255

/- The length that no path reaches, in bytes. -/
def pathLimit : Nat := 4096

/- One step into a directory. -/
def enter
    (tree : FileTree)
    (place : Location)
    (piece : String) : Except OsError Location :=
  if piece = "" ∨ piece = "." then .ok place
  else if piece = ".." then .ok place.dropLast
  else if maxName < piece.utf8ByteSize then
    .error .nameTooLong
  else
    match tree.find? (place ++ [piece]) with
    | none => .error .notFound
    | some (.file _) => .error .notDirectory
    | some .directory => .ok (place ++ [piece])

/- Steps into one directory after the other. -/
def enterAll
    (tree : FileTree)
    (place : Location) :
    List String → Except OsError Location
  | [] => .ok place
  | piece :: rest =>
      match tree.enter place piece with
      | .error e => .error e
      | .ok next => tree.enterAll next rest

/-
  The place that a path leads to. It is named when its last
  piece is a name and not `.`, `..` or the root, and closed
  when a separator stands behind the name.
-/
structure Target where
  location : Location
  named : Bool
  closed : Bool

/- The place of a path whose last piece is given. -/
def targetOf
    (tree : FileTree)
    (place : Location)
    (last : String)
    (closed : Bool) : Except OsError Target :=
  if last = "." ∨ last = ".." then
    match tree.enter place last with
    | .error e => .error e
    | .ok next => .ok ⟨next, false, closed⟩
  else if maxName < last.utf8ByteSize then
    .error .nameTooLong
  else .ok ⟨place ++ [last], true, closed⟩

/-
  Where a path leads. Everything in front of its last piece
  has to be a directory.
-/
def locate
    (tree : FileTree)
    (path : Path) : Except OsError Target :=
  if '\x00' ∈ path.text.toList then .error .nulInPath
  else if path.text = "" then .error .notFound
  else if pathLimit ≤ path.text.utf8ByteSize then
    .error .nameTooLong
  else
    let start := if path.isAbsolute then [] else tree.workDir
    let pieces :=
      ((Path.piecesOf path.text.toList).filter (· ≠ [])).map
        String.ofList
    match pieces.getLast? with
    | none => .ok ⟨start, false, true⟩
    | some last =>
        match tree.enterAll start pieces.dropLast with
        | .error e => .error e
        | .ok place =>
            tree.targetOf place last
              (path.text.toList.getLast? =
                some Path.separator)

------------------------------------------------------------
-- Looking
------------------------------------------------------------

/- The path leads to a directory. -/
def isDirectory (tree : FileTree) (path : Path) : Bool :=
  match tree.locate path with
  | .error _ => false
  | .ok target =>
      tree.find? target.location = some .directory

/- The path leads to a file. -/
def isFile (tree : FileTree) (path : Path) : Bool :=
  match tree.locate path with
  | .error _ => false
  | .ok target =>
      match tree.find? target.location with
      | some (.file _) => !target.closed
      | _ => false

/- The content of a file. -/
def read
    (tree : FileTree)
    (path : Path) : Except OsError Bytes :=
  match tree.locate path with
  | .error e => .error e
  | .ok target =>
      match tree.find? target.location with
      | none => .error .notFound
      | some .directory => .error .isDirectory
      | some (.file content) =>
          if target.closed then .error .notDirectory
          else .ok content

/- The text of a file. -/
def readText
    (tree : FileTree)
    (path : Path) : Except OsError String :=
  match tree.read path with
  | .error e => .error e
  | .ok content =>
      match Bytes.toText? content with
      | none => .error .malformedText
      | some text => .ok text

------------------------------------------------------------
-- Changing
------------------------------------------------------------

/- The place and old content of a file opened for writing. -/
def openForWriting
    (tree : FileTree)
    (path : Path) : Except OsError (Location × Bytes) :=
  match tree.locate path with
  | .error e => .error e
  | .ok target =>
      if !target.named || target.closed then
        .error .isDirectory
      else
        match tree.find? target.location with
        | some .directory => .error .isDirectory
        | some (.file content) =>
            .ok (target.location, content)
        | none => .ok (target.location, [])

/- Replace the content of a file. -/
def write
    (tree : FileTree)
    (path : Path)
    (content : Bytes) : Except OsError FileTree :=
  match tree.openForWriting path with
  | .error e => .error e
  | .ok (place, _) => .ok (tree.put place (.file content))

/- Add to the end of a file. -/
def append
    (tree : FileTree)
    (path : Path)
    (content : Bytes) : Except OsError FileTree :=
  match tree.openForWriting path with
  | .error e => .error e
  | .ok (place, old) =>
      .ok (tree.put place (.file (old ++ content)))

/- Create one directory in an existing one. -/
def createDirectory
    (tree : FileTree)
    (path : Path) : Except OsError FileTree :=
  match tree.locate path with
  | .error e => .error e
  | .ok target =>
      if !target.named then .error .alreadyExists
      else
        match tree.find? target.location with
        | some _ => .error .alreadyExists
        | none => .ok (tree.put target.location .directory)

------------------------------------------------------------
-- Directories with Parents
------------------------------------------------------------

/- A path, its parent, the parent of that, and so on, at
   most the given number of them. -/
def ancestorsUpTo : Nat → Path → List Path
  | 0, _ => []
  | n + 1, path =>
      match path.parent? with
      | none => [path]
      | some parent => path :: ancestorsUpTo n parent

/- A path and all its ancestors. Each parent is shorter, so
   there are no more of them than characters and one. -/
def ancestors (path : Path) : List Path :=
  ancestorsUpTo (path.text.length + 1) path

/- Create a directory, or accept one that is there. -/
def ensureDirectory
    (tree : FileTree)
    (path : Path) : Except OsError FileTree :=
  match tree.createDirectory path with
  | .ok tree => .ok tree
  | .error e =>
      if tree.isDirectory path then .ok tree else .error e

/- Create the first path of a list; where its parent is
   missing, create the paths behind it before. -/
def createFrom
    (tree : FileTree) :
    List Path → Except OsError Unit × FileTree
  | [] => (.error .noRootToCreate, tree)
  | path :: parents =>
      if path.text = "" then (.ok (), tree)
      else
        match tree.ensureDirectory path with
        | .ok tree => (.ok (), tree)
        | .error .notFound =>
            match tree.createFrom parents with
            | (.error e, tree) => (.error e, tree)
            | (.ok _, tree) =>
                match tree.ensureDirectory path with
                | .ok tree => (.ok (), tree)
                | .error e => (.error e, tree)
        | .error e => (.error e, tree)

/- Create a directory together with its parents. Parents
   created before a failure stay. -/
def createDirectories
    (tree : FileTree)
    (path : Path) : Except OsError Unit × FileTree :=
  tree.createFrom (ancestors path)

------------------------------------------------------------
-- Listing
------------------------------------------------------------

/- Locations ordered name by name, parents first. -/
def locationLe : Location → Location → Bool
  | [], _ => true
  | _ :: _, [] => false
  | a :: as, b :: bs =>
      if a = b then locationLe as bs else decide (a < b)

/- A location and its entry, relative to a directory. -/
def relativeTo?
    (directory : Location)
    (entry : Location × Entry) :
    Option (Location × Entry) :=
  match entry.1.drop directory.length with
  | [] => none
  | names =>
      if directory ++ names = entry.1 then
        some (names, entry.2)
      else none

/- An entry of a listing. -/
def listed (entry : Location × Entry) : String :=
  let name := String.intercalate "/" entry.1
  match entry.2 with
  | .directory => name ++ "/"
  | .file _ => name

/- Everything below the working directory, parents before
   their content and names in order. -/
def listing (tree : FileTree) : List String :=
  let below := tree.entries.filterMap (relativeTo? tree.workDir)
  (below.mergeSort fun a b => locationLe a.1 b.1).map listed

end FileTree

end LatencySweep
