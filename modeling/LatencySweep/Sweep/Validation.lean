import LatencySweep.Sweep.Basic
import LatencySweep.Text.Blank

/-
  What makes a sweep well-formed.

  Defects are looked for in a fixed order, and the first
  one found is reported: a sweep without axes or workers,
  then axis by axis a missing value, a name, flag or token
  of an earlier axis, or a value that cannot be part of a
  directory name. A sweep without these defects can still
  give two tuples the same directory.

  Key definitions include:
    * `SweepDefect`
    * `Sweep.axisDefect?`
    * `Sweep.collision?`
    * `Sweep.defect?`
-/

namespace LatencySweep

------------------------------------------------------------
-- Defects
------------------------------------------------------------

/- A part of an axis that no other axis may share. -/
inductive AxisKey where
  | name
  | flag
  | token
  deriving DecidableEq

namespace AxisKey

/- The keys in the order in which they are compared. -/
def all : List AxisKey :=
  [name, flag, token]

/- The name of a key in messages. -/
def text : AxisKey → String
  | name => "name"
  | flag => "flag"
  | token => "token"

/- The key of an axis. -/
def ofAxis (axis : Axis) : AxisKey → String
  | name => axis.name
  | flag => axis.flag
  | token => axis.token

end AxisKey

/- Why a sweep is not well-formed. -/
inductive SweepDefect where
  | noAxes
  | zeroConcurrency
  | emptyAxis (name : String)
  | duplicateAxis (key : AxisKey) (value : String)
  | invalidValue (axis value : String)
  | directoryCollision (name : String) (first second : Nat)
  deriving DecidableEq

/- The text of a defect. -/
def SweepDefect.message : SweepDefect → String
  | noAxes => "The sweep does not define any axis."
  | zeroConcurrency =>
      "The worker pool needs at least one worker."
  | emptyAxis name => s!"Axis `{name}` has no values."
  | duplicateAxis key value =>
      s!"Axis {key.text} `{value}` is used more than once."
  | invalidValue axis value =>
      s!"Value `{value}` of axis `{axis}` must not contain " ++
        "whitespace or path separators."
  | directoryCollision name first second =>
      s!"Tuples #{first} and #{second} would both write " ++
        s!"to `{name}`."

------------------------------------------------------------
-- Axes
------------------------------------------------------------

/- A character that may not be part of a value. -/
def isForbidden (c : Char) : Bool :=
  isBlank c || c = '/' || c = '\\'

/- A value that cannot be part of a directory name. -/
def AxisValue.isInvalid : AxisValue → Bool
  | .text value => value = "" || value.toList.any isForbidden
  | _ => false

namespace Sweep

/- A key of an axis that an earlier axis has, too. -/
def sharedKey?
    (earlier : List Axis)
    (axis : Axis) : Option AxisKey :=
  AxisKey.all.find? fun key =>
    earlier.any fun other =>
      key.ofAxis other = key.ofAxis axis

/- The first defect of an axis behind other axes. -/
def axisDefect?
    (earlier : List Axis)
    (axis : Axis) : Option SweepDefect :=
  if axis.values = [] then some (.emptyAxis axis.name)
  else
    match sharedKey? earlier axis with
    | some key => some (.duplicateAxis key (key.ofAxis axis))
    | none =>
        (axis.values.find? AxisValue.isInvalid).map fun value =>
          .invalidValue axis.name value.toText

/- The first defect of axes behind other axes. -/
def axesDefect? (earlier : List Axis) :
    List Axis → Option SweepDefect
  | [] => none
  | axis :: rest =>
      (axisDefect? earlier axis).or
        (axesDefect? (earlier ++ [axis]) rest)

------------------------------------------------------------
-- Directories
------------------------------------------------------------

/-
  The first tuple whose directory is that of an earlier
  tuple. The next tuple has the given index, `left` tuples
  are left, and the names of earlier ones are known.
-/
def collisionFrom?
    (sweep : Sweep)
    (seen : List (String × Nat)) :
    (left index : Nat) → Option SweepDefect
  | 0, _ => none
  | left + 1, index =>
      match sweep.grid.get? index with
      | none => none
      | some tuple =>
          let name := sweep.directoryName tuple
          match seen.lookup name with
          | some first =>
              some (.directoryCollision name first index)
          | none =>
              collisionFrom? sweep ((name, index) :: seen)
                left (index + 1)

/- The first tuple whose directory is taken. -/
def collision? (sweep : Sweep) : Option SweepDefect :=
  sweep.collisionFrom? [] sweep.grid.size 0

------------------------------------------------------------
-- Sweeps
------------------------------------------------------------

/- The first defect of a sweep, if it has one. -/
def defect? (sweep : Sweep) : Option SweepDefect :=
  if sweep.axes = [] then some .noAxes
  else if sweep.concurrency = 0 then some .zeroConcurrency
  else
    match axesDefect? [] sweep.axes with
    | some defect => some defect
    | none => sweep.collision?

/- A sweep without defects. -/
def IsValid (sweep : Sweep) : Prop :=
  sweep.defect? = none

instance (sweep : Sweep) : Decidable sweep.IsValid := by
  unfold IsValid
  infer_instance

example : (Sweep.ofPreset .static).IsValid := by
  decide +kernel

end Sweep

end LatencySweep
