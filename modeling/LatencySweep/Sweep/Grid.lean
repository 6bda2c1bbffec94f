import LatencySweep.Sweep.Axis

/-
  The grid of a sweep: all tuples of one value per axis.

  Tuples are numbered so that the last axis varies fastest.
  The number of a tuple is read as a number with mixed
  bases whose last digit belongs to the last axis. Numbers
  are words, so a grid of `2 ^ 64` choices or more has not
  all of them as its tuples.

  Key definitions include:
    * `Tuple`
    * `Grid`
    * `Grid.size`
    * `Grid.digits`
    * `Grid.get?`
    * `Grid.tuples`
-/

namespace LatencySweep

------------------------------------------------------------
-- Tuples
------------------------------------------------------------

/- One value per axis, and the number of this choice. -/
structure Tuple where
  index : Nat
  bindings : List Binding
  deriving DecidableEq

namespace Tuple

/- The value that is bound to a flag. -/
def get? (tuple : Tuple) (flag : String) : Option AxisValue :=
  (tuple.bindings.find? fun b => b.flag = flag).map
    Binding.value

/- The options of the simulator, in the order of the axes. -/
def options (tuple : Tuple) : List String :=
  tuple.bindings.map Binding.option

/- The tuple in messages. -/
def toText (tuple : Tuple) : String :=
  let assignments :=
    String.intercalate ", "
      (tuple.bindings.map Binding.assignment)
  s!"#{tuple.index} ({assignments})"

instance : ToString Tuple := ⟨toText⟩

/- The name of the directory for a tuple's results. -/
def directoryName (tuple : Tuple) (front : String) : String :=
  String.intercalate "_"
    (front :: tuple.bindings.map Binding.label)

end Tuple

------------------------------------------------------------
-- Grids
------------------------------------------------------------

/- All tuples of one value per axis. -/
structure Grid where
  axes : List Axis
  deriving DecidableEq

namespace Grid

/-
  The number of tuples, as a word of 64 bits counts it. The
  lengths of the axes are multiplied from the first on, and
  whole turns of the word are lost. This is what a build for
  speed does. One that checks for overflow stops instead.
-/
def size (grid : Grid) : Nat :=
  (grid.axes.foldl
    (fun count axis => count * UInt64.ofNat axis.size)
    1).toNat

/-
  The digits of a number in mixed bases, and what is left of
  the number in front of them. The last base counts the
  smallest steps.
-/
def digits : List Nat → Nat → List Nat × Nat
  | [], n => ([], n)
  | base :: bases, n =>
      let (others, left) := digits bases n
      (left % base :: others, left / base)

/- The bindings of axes to the values at given positions. -/
def bindAll? :
    List Axis → List Nat → Option (List Binding)
  | [], [] => some []
  | axis :: axes, position :: positions =>
      match axis.binding? position,
          bindAll? axes positions with
      | some binding, some others => some (binding :: others)
      | _, _ => none
  | _, _ => none

/- The positions of a tuple's values on their axes. -/
def positions (grid : Grid) (index : Nat) : List Nat :=
  (digits (grid.axes.map Axis.size) index).1

/- The tuple of a number. -/
def get? (grid : Grid) (index : Nat) : Option Tuple :=
  if index < grid.size then
    (bindAll? grid.axes (grid.positions index)).map fun bs =>
      { index, bindings := bs }
  else none

/- All tuples in order. -/
def tuples (grid : Grid) : List Tuple :=
  (List.range grid.size).filterMap grid.get?

example : digits [2, 3] 4 = ([1, 1], 0) := by decide
example : (⟨[]⟩ : Grid).tuples = [⟨0, []⟩] := by decide

end Grid

end LatencySweep
