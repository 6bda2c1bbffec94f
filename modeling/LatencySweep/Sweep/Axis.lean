/-
  The axes of a sweep and the values on them.

  Key definitions include:
    * `AxisValue`
    * `AxisValue.toText`
    * `Axis`
    * `Binding`
    * `Axis.binding?`
-/

namespace LatencySweep

------------------------------------------------------------
-- Values
------------------------------------------------------------

/- A value of a simulator flag. -/
inductive AxisValue where
  | bool (value : Bool)
  | integer (value : Int)
  | text (value : String)
  deriving DecidableEq

namespace AxisValue

/- The value as the simulator reads it. -/
def toText : AxisValue → String
  | bool value => toString value
  | integer value => toString value
  | text value => value

instance : ToString AxisValue := ⟨toText⟩

end AxisValue

------------------------------------------------------------
-- Axes
------------------------------------------------------------

/-
  A flag of the simulator with the values to sweep over. The
  token stands for the flag in directory names.
-/
structure Axis where
  name : String
  flag : String
  token : String
  values : List AxisValue
  deriving DecidableEq

/- A value bound to the flag of its axis. -/
structure Binding where
  flag : String
  token : String
  value : AxisValue
  deriving DecidableEq

namespace Axis

/- How many values an axis has. -/
def size (axis : Axis) : Nat :=
  axis.values.length

/- The flag bound to a value. -/
def bind (axis : Axis) (value : AxisValue) : Binding :=
  { flag := axis.flag, token := axis.token, value }

/- The flag bound to the value at a position. -/
def binding? (axis : Axis) (position : Nat) : Option Binding :=
  axis.values[position]?.map axis.bind

end Axis

namespace Binding

/- The binding as `flag=value`. -/
def assignment (b : Binding) : String :=
  s!"{b.flag}={b.value}"

/- The binding as an option of the simulator. -/
def option (b : Binding) : String :=
  s!"--{b.flag}={b.value}"

/- The binding as part of a directory name. -/
def label (b : Binding) : String :=
  s!"{b.token}-{b.value}"

end Binding

end LatencySweep
