import LatencySweep.Host.FileTree
import LatencySweep.Sweep.Format
import LatencySweep.Sweep.Validation

/-
  Sweeps in files.

  Key definitions include:
    * `SweepFileError`
    * `Sweep.ofFile`
-/

namespace LatencySweep

/- Why there is no valid sweep in a file. -/
inductive SweepFileError where
  | file (cause : OsError)
  | json (cause : DecodeError)
  | defect (cause : SweepDefect)
  deriving DecidableEq

namespace SweepFileError

/- The text of an error. -/
def message : SweepFileError → String
  | file cause => s!"IO Error: {cause}"
  | json cause =>
      s!"Cannot parse the sweep configuration: {cause}"
  | defect cause => cause.message

instance : ToString SweepFileError := ⟨message⟩

end SweepFileError

/- The valid sweep in a file. -/
def Sweep.ofFile
    (path : Path)
    (tree : FileTree) : Except SweepFileError Sweep :=
  match tree.readText path with
  | .error cause => .error (.file cause)
  | .ok text =>
      match ofJsonText text with
      | .error cause => .error (.json cause)
      | .ok sweep =>
          match sweep.defect? with
          | some cause => .error (.defect cause)
          | none => .ok sweep

end LatencySweep
