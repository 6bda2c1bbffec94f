import LatencySweep.Trace.Cohort
import Mathlib.Data.List.Perm.Basic

/-
  Which records a cohort is made of.

  A cohort covers some call types. Every positive call type
  is covered by one cohort and no other, so the samples of
  all cohorts together are those of the records with such a
  call type.

  Main declarations:
    * `Cohort.Covers`
    * `Cohort.HasRecord`
    * `Cohort.samples_eq`
    * `Cohort.samples_all_perm`
-/

namespace LatencySweep

namespace Cohort

variable {cohort other : Cohort}
variable {records others : List Record}

------------------------------------------------------------
-- Call Types
------------------------------------------------------------

/- The call types of a cohort. -/
def Covers : Cohort → Int → Prop
  | onNetwork, callType => callType = 1
  | offNetwork, callType => 2 < callType
  | relay, callType => callType = 2

instance (cohort : Cohort) (callType : Int) :
    Decidable (cohort.Covers callType) := by
  cases cohort with
  | onNetwork => exact inferInstanceAs (Decidable (_ = _))
  | offNetwork => exact inferInstanceAs (Decidable (_ < _))
  | relay => exact inferInstanceAs (Decidable (_ = _))

/- The cohort of a call type is the one that covers it. -/
theorem ofCallType?_eq_some_iff {callType : Int} :
    ofCallType? callType = some cohort ↔
      cohort.Covers callType := by
  unfold ofCallType?
  cases cohort with
  | onNetwork =>
      unfold Covers
      split_ifs <;> simp_all
  | offNetwork =>
      unfold Covers
      split_ifs <;> simp_all
  | relay =>
      unfold Covers
      split_ifs <;> simp_all

/- Every positive call type is covered. -/
theorem exists_covers_iff {callType : Int} :
    (∃ cohort : Cohort, cohort.Covers callType) ↔
      0 < callType := by
  constructor
  · rintro ⟨cohort, hCovers⟩
    cases cohort with
    | onNetwork =>
        change callType = 1 at hCovers
        omega
    | offNetwork =>
        change 2 < callType at hCovers
        omega
    | relay =>
        change callType = 2 at hCovers
        omega
  · intro hPos
    by_cases hOne : callType = 1
    · exact ⟨onNetwork, hOne⟩
    by_cases hTwo : callType = 2
    · exact ⟨relay, hTwo⟩
    · refine ⟨offNetwork, ?_⟩
      change 2 < callType
      omega

/- No call type is covered twice. -/
theorem covers_inj
    {callType : Int}
    (hCovers : cohort.Covers callType)
    (hOther : other.Covers callType) :
    cohort = other := by
  rw [← ofCallType?_eq_some_iff] at hCovers hOther
  exact Option.some.inj (hCovers.symm.trans hOther)

------------------------------------------------------------
-- Samples
------------------------------------------------------------

/- Some record belongs to the cohort. -/
def HasRecord
    (cohort : Cohort)
    (records : List Record) : Prop :=
  ∃ record ∈ records, cohort.Covers record.callType

instance (cohort : Cohort) (records : List Record) :
    Decidable (cohort.HasRecord records) := by
  unfold HasRecord
  infer_instance

theorem samples_eq
    (cohort : Cohort)
    (records : List Record) :
    cohort.samples records =
      (records.filter fun record =>
        cohort.Covers record.callType).map
          Record.latencyMs := by
  unfold samples
  congr 1
  apply List.filter_congr
  intro record _
  rw [decide_eq_decide]
  exact ofCallType?_eq_some_iff

theorem samples_eq_nil_iff :
    cohort.samples records = [] ↔
      ¬ cohort.HasRecord records := by
  rw [samples_eq, List.map_eq_nil_iff, List.filter_eq_nil_iff]
  simp [HasRecord]

theorem samples_perm
    (cohort : Cohort)
    (hPerm : records.Perm others) :
    (cohort.samples records).Perm (cohort.samples others) :=
  (hPerm.filter _).map _

/- The samples of one record and others. -/
theorem samples_cons
    (cohort : Cohort)
    (record : Record)
    (records : List Record) :
    cohort.samples (record :: records) =
      if cohort.Covers record.callType then
        record.latencyMs :: cohort.samples records
      else cohort.samples records := by
  rw [samples_eq, samples_eq, List.filter_cons]
  by_cases hCovers : cohort.Covers record.callType
  · simp [hCovers]
  · simp [hCovers]

/- The cohorts together have each sample with a positive call
   type once. -/
theorem samples_all_perm (records : List Record) :
    (all.flatMap fun cohort => cohort.samples records).Perm
      ((records.filter fun record =>
        0 < record.callType).map Record.latencyMs) := by
  have hAll (rest : List Record) :
      (all.flatMap fun cohort => cohort.samples rest) =
        onNetwork.samples rest ++
          (offNetwork.samples rest ++
            (relay.samples rest ++ [])) := rfl
  induction records with
  | nil => exact List.Perm.refl _
  | cons record records ih =>
      rw [hAll] at ih ⊢
      simp only [samples_cons]
      by_cases hPos : 0 < record.callType
      · rcases exists_covers_iff.mpr hPos with
          ⟨cohort, hCovers⟩
        have hOthers (other : Cohort) :
            other.Covers record.callType ↔ other = cohort :=
          ⟨fun hOther => covers_inj hOther hCovers,
            fun hSame => hSame ▸ hCovers⟩
        rw [List.filter_cons_of_pos (by simpa using hPos),
          List.map_cons]
        refine List.Perm.trans ?_ (ih.cons record.latencyMs)
        simp only [hOthers]
        cases cohort with
        | onNetwork => exact List.Perm.refl _
        | offNetwork => exact List.perm_middle
        | relay =>
            exact
              (List.perm_middle.append_left _).trans
                List.perm_middle
      · have hNone (other : Cohort) :
            ¬ other.Covers record.callType := fun hOther =>
          hPos (exists_covers_iff.mp ⟨other, hOther⟩)
        rw [List.filter_cons_of_neg (by simpa using hPos)]
        simp only [hNone, if_false]
        exact ih

end Cohort

end LatencySweep
