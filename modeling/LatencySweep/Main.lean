import LatencySweep.CommandLine.Programs
import LatencySweep.CommandLine.Sweep

/-
  The command line.

  What stands below the working directory is read into a
  tree, the command works on the tree, and what it changed
  is written back. Programs are those of the standard host.
-/

namespace LatencySweep

namespace Main

/- Take an entry of a directory, with all that is below it,
   into a tree. -/
partial def readEntry
    (place : Location)
    (tree : FileTree)
    (entry : IO.FS.DirEntry) : IO FileTree := do
  let here := place ++ [entry.fileName]
  if ← entry.path.isDir then
    (← entry.path.readDir).foldlM (readEntry here)
      (tree.put here .directory)
  else
    let content ← IO.FS.readBinFile entry.path
    return tree.put here (.file content.toList)

/- Read what is below the working directory. -/
def readTree : IO FileTree := do
  let start := FileTree.empty
  (← (← IO.currentDir).readDir).foldlM
    (readEntry start.workDir) start

/- The path of a place in a tree. -/
def pathOf (tree : FileTree) (place : Location) : String :=
  if tree.workDir.isPrefixOf place then
    String.intercalate "/" (place.drop tree.workDir.length)
  else "/" ++ String.intercalate "/" place

/- Write an entry unless it was there before. -/
def writeEntry
    (before : FileTree)
    (entry : Location × Entry) : IO Unit := do
  let path := pathOf before entry.1
  unless before.find? entry.1 = some entry.2 do
    match entry.2 with
    | .directory => IO.FS.createDirAll path
    | .file content =>
        IO.FS.writeBinFile path ⟨content.toArray⟩

/- Write what has changed, directories first. -/
def writeTree (before after : FileTree) : IO Unit := do
  let inOrder :=
    after.entries.mergeSort fun a b =>
      FileTree.locationLe a.1 b.1
  inOrder.forM (writeEntry before)

end Main

end LatencySweep

/- Run the command with its arguments. -/
def main (args : List String) : IO UInt32 := do
  let tree ← LatencySweep.Main.readTree
  let (ending, w) :=
    LatencySweep.sweepCommand
      LatencySweep.Host.standard.runner args
      (LatencySweep.World.start tree ())
  LatencySweep.Main.writeTree tree w.tree
  w.printedLines.forM IO.println
  match ending.errorText? with
  | some text => IO.eprintln text
  | none => pure ()
  return ending.exitCode.toUInt32
