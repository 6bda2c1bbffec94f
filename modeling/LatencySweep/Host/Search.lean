import LatencySweep.Host.FileTree

/-
  Finding the program behind a name.

  A bare name is looked for on the search path and then next
  to the running program. Paths and unknown names stay as
  they are.

  Key definitions include:
    * `searchDirectories`
    * `resolveProgram`
-/

namespace LatencySweep

/- The directories of a search path, divided by colons. An
   empty one is the working directory. -/
def searchDirectories (searchPath : String) : List Path :=
  (searchPath.toList.splitOn ':').map fun dir =>
    ⟨String.ofList dir⟩

/- A directory holds a file of the given name. -/
def holdsProgram
    (tree : FileTree)
    (program : String)
    (dir : Path) : Bool :=
  tree.isFile (dir / program)

/- The path of the program that a name stands for. -/
def resolveProgram
    (tree : FileTree)
    (program : String)
    (searchPath : Option String)
    (exeDir : Option Path) : Path :=
  let name : Path := ⟨program⟩
  let searched :=
    (searchPath.map searchDirectories).getD []
  if name.components.length ≠ 1 then name
  else if searched.any (holdsProgram tree program) then name
  else
    match exeDir with
    | none => name
    | some dir =>
        if holdsProgram tree program dir then dir / program
        else name

end LatencySweep
