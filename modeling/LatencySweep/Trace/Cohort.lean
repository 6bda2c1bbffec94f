import LatencySweep.Trace.Record

/-
  Cohorts: the groups of calls whose latencies are shown
  together.

  The call type of a record decides its cohort. Records
  with other call types belong to none and are left out.

  Key definitions include:
    * `Cohort`
    * `Cohort.ofCallType?`
    * `Cohort.samples`
    * `Record.IsStray`
-/

namespace LatencySweep

/- A group of calls. -/
inductive Cohort where
  | onNetwork
  | offNetwork
  | relay
  deriving DecidableEq

namespace Cohort

/- Every cohort, in the order of reports. -/
def all : List Cohort :=
  [onNetwork, offNetwork, relay]

theorem mem_all (cohort : Cohort) : cohort ∈ all := by
  cases cohort <;> decide

/- The name of a cohort. -/
def name : Cohort → String
  | onNetwork => "on network"
  | offNetwork => "off network"
  | relay => "relay"

instance : ToString Cohort := ⟨name⟩

/- What ends the name of a cohort's export. -/
def fileSuffix : Cohort → String
  | onNetwork => "onNet"
  | offNetwork => "offNet"
  | relay => "relay"

/- The cohort of a call type. -/
def ofCallType? (callType : Int) : Option Cohort :=
  if callType = 1 then some onNetwork
  else if callType = 2 then some relay
  else if 2 < callType then some offNetwork
  else none

/- The samples of a cohort in milliseconds, in the order of
   the records. -/
def samples
    (cohort : Cohort)
    (records : List Record) : List Binary64 :=
  (records.filter fun record =>
    ofCallType? record.callType = some cohort).map
      Record.latencyMs

end Cohort

/- A record that belongs to no cohort. -/
def Record.IsStray (record : Record) : Prop :=
  Cohort.ofCallType? record.callType = none

instance (record : Record) : Decidable record.IsStray := by
  unfold Record.IsStray
  infer_instance

end LatencySweep
