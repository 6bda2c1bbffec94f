/-
  Paths as text, and their components.

  A path keeps the text it was written with. Its components
  are what the text says about the place: repeated
  separators and `.` pieces do not count, except for a `.`
  in front of a relative path.

  Key definitions include:
    * `Path`
    * `Path.Component`
    * `Path.components`
    * `Path.join`
    * `Path.parent?`
    * `Path.fileName?`
    * `Path.fileStem?`
    * `Path.parentDir`
-/

namespace LatencySweep

/- A path, kept as it was written. -/
structure Path where
  text : String
  deriving DecidableEq

namespace Path

instance : ToString Path := ⟨Path.text⟩

------------------------------------------------------------
-- Pieces
------------------------------------------------------------

/- The separator of pieces. -/
def separator : Char := '/'

/- The text between separators. -/
def piecesOf (text : List Char) : List (List Char) :=
  text.splitOn separator

/- A piece that names nothing. -/
def isIdle (piece : List Char) : Bool :=
  piece = [] || piece = ['.']

/-
  The front of a path that is not made of names: a leading
  separator, or a `.` before the first separator.
-/
def splitAnchor
    (text : List Char) : List Char × List Char :=
  match text with
  | '/' :: rest => (['/'], rest)
  | ['.'] => (['.'], [])
  | '.' :: '/' :: rest => (['.'], '/' :: rest)
  | rest => ([], rest)

/- The path starts at the root. -/
def isAbsolute (p : Path) : Bool :=
  p.text.toList.head? = some separator

------------------------------------------------------------
-- Components
------------------------------------------------------------

/- A step of a path. -/
inductive Component where
  | root
  | here
  | up
  | name (text : String)
  deriving DecidableEq

/- The step of a piece that is not idle. -/
def componentOf (piece : List Char) : Component :=
  if piece = ['.', '.'] then .up
  else .name (String.ofList piece)

/- The step of an anchor. -/
def anchorComponents (anchor : List Char) : List Component :=
  match anchor with
  | [] => []
  | '/' :: _ => [.root]
  | _ => [.here]

/- The steps of a path. -/
def components (p : Path) : List Component :=
  let (anchor, body) := splitAnchor p.text.toList
  anchorComponents anchor ++
    ((piecesOf body).filter (!isIdle ·)).map componentOf

------------------------------------------------------------
-- Joining
------------------------------------------------------------

/-
  The path with more text behind it. An absolute text
  replaces the path; otherwise a separator goes between
  them unless the path is empty or ends with one.
-/
def join (p : Path) (name : String) : Path :=
  if isAbsolute ⟨name⟩ then ⟨name⟩
  else
    match p.text.toList.getLast? with
    | none => ⟨name⟩
    | some last =>
        if last = separator then ⟨p.text ++ name⟩
        else ⟨p.text ++ "/" ++ name⟩

instance : HDiv Path String Path := ⟨join⟩

------------------------------------------------------------
-- Parents and Names
------------------------------------------------------------

/- Pieces without the idle ones at the end. -/
def dropIdleEnd
    (pieces : List (List Char)) : List (List Char) :=
  (pieces.reverse.dropWhile isIdle).reverse

/- The pieces of the body up to its last name. -/
def bodyPieces (p : Path) : List (List Char) :=
  dropIdleEnd (piecesOf (splitAnchor p.text.toList).2)

/-
  The path without its last component. The root and the
  empty path have no parent.
-/
def parent? (p : Path) : Option Path :=
  let anchor := (splitAnchor p.text.toList).1
  let pieces := p.bodyPieces
  if pieces = [] then
    if anchor = ['.'] then some ⟨""⟩ else none
  else
    some ⟨String.ofList
      (anchor ++
        [separator].intercalate
          (dropIdleEnd pieces.dropLast))⟩

/- The last component, if it is a name. -/
def fileName? (p : Path) : Option String :=
  match p.bodyPieces.getLast? with
  | none => none
  | some piece =>
      if piece = ['.', '.'] then none
      else some (String.ofList piece)

/-
  A file name without its extension, the text from the last
  dot on. A name whose only dot is in front has none.
-/
def stemOf (name : List Char) : List Char :=
  match name.reverse.dropWhile (· ≠ '.') with
  | [] => name
  | ['.'] => name
  | '.' :: stem => stem.reverse
  | _ => name

/- The file name without its extension. -/
def fileStem? (p : Path) : Option String :=
  p.fileName?.map fun name =>
    String.ofList (stemOf name.toList)

/- The directory of a file, `.` for a bare name. -/
def parentDir (p : Path) : Path :=
  match p.parent? with
  | some parent => if parent.text = "" then ⟨"."⟩ else parent
  | none => ⟨"."⟩

example : components ⟨"./a//../b/."⟩ =
    [.here, .name "a", .up, .name "b"] := by
  decide +kernel
example : parent? ⟨"a/b/"⟩ = some ⟨"a"⟩ := by
  decide +kernel
example : parent? ⟨"//a"⟩ = some ⟨"/"⟩ := by
  decide +kernel
example : fileStem? ⟨"x/.y.z"⟩ = some ".y" := by
  decide +kernel
example : fileStem? ⟨".y"⟩ = some ".y" := by
  decide +kernel
example : join ⟨"a/"⟩ "b" = ⟨"a/b"⟩ := by decide +kernel
example : join ⟨"a"⟩ "" = ⟨"a/"⟩ := by decide +kernel
example : join ⟨"a"⟩ "/b" = ⟨"/b"⟩ := by decide +kernel

end Path

end LatencySweep
