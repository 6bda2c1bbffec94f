import LatencySweep.Host.OsError
import LatencySweep.Number.Binary64

/-
  Records of a latency trace and why reading one can fail.

  Key definitions include:
    * `Record`
    * `Record.latencyMs`
    * `Schema`
    * `RecordError`
    * `RecordError.message`
-/

namespace LatencySweep

------------------------------------------------------------
-- Records
------------------------------------------------------------

/- One measured call: its type and its latency in seconds. -/
structure Record where
  callType : Int
  latency : Binary64
  deriving DecidableEq

namespace Record

/- The latency in milliseconds. -/
def latencyMs (record : Record) : Binary64 :=
  record.latency * Binary64.ofNat 1000

end Record

------------------------------------------------------------
-- Schemas
------------------------------------------------------------

/-
  Where a trace line holds its values, counted from zero,
  and how a line starts that is only a comment.
-/
structure Schema where
  callTypeColumn : Nat := 3
  latencyColumn : Nat := 4
  commentMark : String := "#"
  deriving DecidableEq

------------------------------------------------------------
-- Errors
------------------------------------------------------------

/- A column that every record has to fill. -/
inductive Column where
  | callType
  | latency
  deriving DecidableEq

/- The name of a column in messages. -/
def Column.name : Column → String
  | callType => "call_type"
  | latency => "latency"

/- Why a trace, or one of its lines, cannot be read. Lines
   are counted from one. -/
inductive RecordError where
  | unreadable (file : String) (cause : OsError)
  | missingColumn
      (file : String) (line : Nat) (column : Column)
      (index found : Nat)
  | invalidValue
      (file : String) (line : Nat) (column : Column)
      (value : String)
  deriving DecidableEq

namespace RecordError

/- The text of an error. -/
def message : RecordError → String
  | unreadable file cause => s!"Cannot read {file}: {cause}"
  | missingColumn file line column index found =>
      s!"{file}, line {line}: column `{column.name}` " ++
        s!"(index {index}) is missing, " ++
        s!"found only {found} columns"
  | invalidValue file line column value =>
      s!"{file}, line {line}: cannot parse `{value}` " ++
        s!"as `{column.name}`"

instance : ToString RecordError := ⟨message⟩

end RecordError

end LatencySweep
