import LatencySweep.Text.Utf8

/-
  Lines of a byte stream.

  A line ends at a line feed. One carriage return right
  before the line feed belongs to the ending, and a last
  piece without a line feed is a line if it is not empty.

  Key definitions include:
    * `Bytes.lines`
-/

namespace LatencySweep

namespace Bytes

/- The byte that ends a line. -/
def lineFeed : UInt8 := 10

/- The byte that may stand before a line feed. -/
def carriageReturn : UInt8 := 13

/- A line without the carriage return of its ending. -/
def dropReturn (line : Bytes) : Bytes :=
  if line.getLast? = some carriageReturn then
    line.dropLast
  else line

/- The lines among pieces cut at line feeds. -/
def linesOfPieces : List Bytes → List Bytes
  | [] => []
  | [last] => if last = [] then [] else [last]
  | piece :: next :: rest =>
      dropReturn piece :: linesOfPieces (next :: rest)

/- The lines of a byte stream, without their endings. -/
def lines (bytes : Bytes) : List Bytes :=
  linesOfPieces (bytes.splitOn lineFeed)

example : lines [97, 13, 10, 98] = [[97], [98]] := by
  decide
example : lines [10, 97, 13] = [[], [97, 13]] := by
  decide

end Bytes

end LatencySweep
