import LatencySweep.Host.World
import LatencySweep.Trace.Line

/-
  Loading a latency trace from a file.

  Key definitions include:
    * `Schema.load`
-/

namespace LatencySweep

namespace Schema

/- The records of the trace in a file. -/
def load
    {σ : Type}
    (schema : Schema)
    (path : Path)
    (w : World σ) :
    Except RecordError (List Record) × World σ :=
  let file := path.text
  let opened := w.log .info s!"Loading: {file}"
  match opened.tree.read path with
  | .error cause => (.error (.unreadable file cause), opened)
  | .ok content =>
      match schema.readRecords file content with
      | .error e => (.error e, opened)
      | .ok records =>
          (.ok records,
            opened.log .debug
              s!"Loaded {records.length} records from {file}")

end Schema

end LatencySweep
