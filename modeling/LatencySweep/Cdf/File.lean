import LatencySweep.Cdf.Basic
import LatencySweep.Cdf.Error
import LatencySweep.Host.FileTree
import LatencySweep.Number.Decimal
import LatencySweep.Number.Text
import LatencySweep.Text.Table

/-
  Distributions in files.

  A file holds a table with two rows, the values and the
  steps. Rows are checked one after the other: each has to
  be as long as the first, to be text and to hold numbers.
  Only then are the rows counted.

  Key definitions include:
    * `Cdf.toTable`
    * `Cdf.save`
    * `Cdf.ofTable`
    * `Cdf.ofFile`
-/

namespace LatencySweep

namespace Cdf

------------------------------------------------------------
-- Writing
------------------------------------------------------------

/- The table of a distribution. -/
def toTable (cdf : Cdf) : String :=
  Table.ofRows
    [cdf.x.map Binary64.toText, cdf.y.map Binary64.toText]

/- Write a distribution to a file. -/
def save
    (cdf : Cdf)
    (path : Path)
    (tree : FileTree) : Except CdfError FileTree :=
  match tree.write path (Bytes.ofText cdf.toTable) with
  | .error cause => .error (.table (.file cause))
  | .ok tree => .ok tree

------------------------------------------------------------
-- Reading
------------------------------------------------------------

/- The fields of a row as text. -/
def readFields :
    List Bytes → Except TableError (List String)
  | [] => .ok []
  | field :: rest =>
      match Bytes.toText? field with
      | none => .error .malformedText
      | some text =>
          match readFields rest with
          | .error e => .error e
          | .ok texts => .ok (text :: texts)

/- The numbers that fields stand for. -/
def readNumbers :
    List String → Except CdfDefect (List Binary64)
  | [] => .ok []
  | field :: rest =>
      match Binary64.read? field.toList with
      | none => .error (.unreadable field)
      | some x =>
          match readNumbers rest with
          | .error e => .error e
          | .ok xs => .ok (x :: xs)

/- The numbers of a row that has to have `width` fields. -/
def readRow
    (path : Path)
    (width : Nat)
    (row : List Bytes) : Except CdfError (List Binary64) :=
  if row.length ≠ width then
    .error (.table (.unequalLengths width row.length))
  else
    match readFields row with
    | .error e => .error (.table e)
    | .ok fields =>
        match readNumbers fields with
        | .error defect => .error (.malformed path defect)
        | .ok xs => .ok xs

/- The numbers of all rows of a given width. -/
def readRows
    (path : Path)
    (width : Nat) :
    List (List Bytes) →
      Except CdfError (List (List Binary64))
  | [] => .ok []
  | row :: rest =>
      match readRow path width row with
      | .error e => .error e
      | .ok xs =>
          match readRows path width rest with
          | .error e => .error e
          | .ok xss => .ok (xs :: xss)

/- The width of a table, which its first row decides. -/
def widthOf (rows : List (List Bytes)) : Nat :=
  (rows.head?.getD []).length

/- The distribution that a table holds. -/
def ofTable
    (path : Path)
    (content : Bytes) : Except CdfError Cdf :=
  let rows := Table.rows content
  match readRows path (widthOf rows) rows with
  | .error e => .error e
  | .ok [x, y] =>
      if h : x = [] then .error (.malformed path .noValues)
      else .ok { x, y, x_ne_nil := h }
  | .ok _ => .error (.malformed path .rowCount)

/- Read the distribution in a file. -/
def ofFile
    (path : Path)
    (tree : FileTree) : Except CdfError Cdf :=
  match tree.read path with
  | .error cause => .error (.table (.file cause))
  | .ok content => ofTable path content

end Cdf

end LatencySweep
