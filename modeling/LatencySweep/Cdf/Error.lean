import LatencySweep.Host.OsError
import LatencySweep.Host.Path
import LatencySweep.Text.Quoted
import LatencySweep.Trace.Cohort

/-
  Why a distribution cannot be computed, written or read.

  Key definitions include:
    * `TableError`
    * `CdfError`
    * `CdfError.message`
-/

namespace LatencySweep

/- Why a table cannot be written or read. -/
inductive TableError where
  | file (cause : OsError)
  | unequalLengths (expected found : Nat)
  | malformedText
  deriving DecidableEq

/- The text of an error. -/
def TableError.message : TableError → String
  | file cause => cause.message
  | unequalLengths expected found =>
      s!"found record with {found} fields, but the previous " ++
        s!"record has {expected} fields"
  | malformedText => "invalid utf-8"

/- What keeps a table from being a distribution. -/
inductive CdfDefect where
  | unreadable (field : String)
  | rowCount
  | noValues
  deriving DecidableEq

/- The text of a defect. -/
def CdfDefect.message : CdfDefect → String
  | unreadable field => s!"cannot parse `{field}`"
  | rowCount => "expected exactly two rows"
  | noValues => "no values"

/- Why there is no distribution. -/
inductive CdfError where
  | emptyCohort (cohort : Cohort)
  | table (cause : TableError)
  | malformed (path : Path) (defect : CdfDefect)
  deriving DecidableEq

namespace CdfError

/- The text of an error. -/
def message : CdfError → String
  | emptyCohort cohort => s!"The {cohort} cohort has no samples."
  | table cause => s!"CSV Error: {cause.message}"
  | malformed path defect =>
      quoted path.text ++
        s!" does not contain an empirical CDF: {defect.message}"

instance : ToString CdfError := ⟨message⟩

end CdfError

end LatencySweep
