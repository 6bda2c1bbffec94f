import LatencySweep.Proofs.Report.Survey
import Mathlib.Data.List.TakeWhile

/-
  How a report ends.

  A survey ends with an error of the trace, with the first
  empty cohort that is not allowed, or with a curve for
  every cohort that has a record. Only in the last case are
  files written. The order of the records does not matter
  for any of this.

  Main declarations:
    * `firstEmpty?_eq_some_iff`
    * `surveyResult_eq_record_iff`
    * `surveyResult_eq_empty_iff`
    * `surveyResult_eq_ok_iff`
    * `plotTrace_cases`
    * `surveyResult_eq_of_perm`
-/

namespace LatencySweep

variable {σ : Type}
variable {options : PlotOptions}
variable {records others : List Record}
variable {cohorts : List Cohort} {cohort : Cohort}

------------------------------------------------------------
-- Empty Cohorts
------------------------------------------------------------

/- A survey is ended by the first cohort without a record,
   if empty cohorts are not allowed. -/
theorem firstEmpty?_eq_some_iff :
    firstEmpty? options records cohorts = some cohort ↔
      options.allowEmpty = false ∧
        ∃ front back,
          cohorts = front ++ cohort :: back ∧
            (∀ before ∈ front, before.HasRecord records) ∧
              ¬ cohort.HasRecord records := by
  unfold firstEmpty?
  cases options.allowEmpty with
  | true => simp
  | false =>
      rw [if_neg (by decide), List.find?_eq_some_iff_append]
      constructor
      · rintro ⟨hEmpty, front, back, rfl, hFront⟩
        refine
          ⟨rfl, front, back, rfl, ?_, by simpa using hEmpty⟩
        intro before hMem
        simpa using hFront before hMem
      · rintro ⟨-, front, back, rfl, hFront, hEmpty⟩
        refine
          ⟨by simpa using hEmpty, front, back, rfl, ?_⟩
        intro before hMem
        simpa using hFront before hMem

/- A survey is not ended if empty cohorts are allowed, or
   there are none. -/
theorem firstEmpty?_eq_none_iff :
    firstEmpty? options records cohorts = none ↔
      options.allowEmpty = true ∨
        ∀ cohort ∈ cohorts, cohort.HasRecord records := by
  unfold firstEmpty?
  cases options.allowEmpty with
  | true => simp
  | false => simp

/- The cohorts before the empty one are surveyed. -/
theorem surveyed_append
    {front back : List Cohort}
    (hStrict : options.allowEmpty = false)
    (hFront : ∀ before ∈ front, before.HasRecord records)
    (hEmpty : ¬ cohort.HasRecord records) :
    surveyed options records (front ++ cohort :: back) =
      front := by
  unfold surveyed
  rw [hStrict, if_neg (by decide),
    List.takeWhile_append_of_pos
      (fun before hMem => by simpa using hFront before hMem),
    List.takeWhile_cons_of_neg (by simpa using hEmpty),
    List.append_nil]

/- All cohorts are surveyed if none ends the survey. -/
theorem surveyed_of_none
    (hNone : firstEmpty? options records cohorts = none) :
    surveyed options records cohorts = cohorts := by
  rcases firstEmpty?_eq_none_iff.mp hNone with hAllow | hAll
  · exact surveyed_of_allowEmpty hAllow records cohorts
  · unfold surveyed
    rw [List.takeWhile_eq_self_iff.mpr
      (fun cohort hMem => by simpa using hAll cohort hMem),
      ite_self]

------------------------------------------------------------
-- Results of a Survey
------------------------------------------------------------

variable {parsed : Except RecordError (List Record)}
variable {cdfs : List (Cohort × Cdf)}

/- With records, only an empty cohort ends a survey. -/
theorem surveyResult_ok_cases
    (options : PlotOptions)
    (records : List Record) :
    (firstEmpty? options records Cohort.all = none ∧
        surveyResult options (.ok records) =
          .ok (curves records Cohort.all)) ∨
      ∃ cohort,
        firstEmpty? options records Cohort.all = some cohort ∧
          surveyResult options (.ok records) =
            .error (.cdf (.emptyCohort cohort)) := by
  unfold surveyResult curvesOrEmpty
  dsimp only
  cases firstEmpty? options records Cohort.all with
  | none => exact Or.inl ⟨rfl, rfl⟩
  | some cohort => exact Or.inr ⟨cohort, rfl, rfl⟩

theorem surveyResult_eq_record_iff {e : RecordError} :
    surveyResult options parsed = .error (.record e) ↔
      parsed = .error e := by
  cases parsed with
  | error other =>
      unfold surveyResult
      simp
  | ok records =>
      rcases surveyResult_ok_cases options records with
        ⟨-, hResult⟩ | ⟨cohort, -, hResult⟩
      · simp [hResult]
      · simp [hResult]

theorem surveyResult_eq_empty_iff :
    surveyResult options parsed =
        .error (.cdf (.emptyCohort cohort)) ↔
      ∃ records,
        parsed = .ok records ∧
          firstEmpty? options records Cohort.all =
            some cohort := by
  cases parsed with
  | error other =>
      unfold surveyResult
      simp
  | ok records =>
      rcases surveyResult_ok_cases options records with
        ⟨hFirst, hResult⟩ | ⟨empty, hFirst, hResult⟩
      · simp [hResult, hFirst]
      · simp [hResult, hFirst]

theorem surveyResult_eq_ok_iff :
    surveyResult options parsed = .ok cdfs ↔
      ∃ records,
        parsed = .ok records ∧
          firstEmpty? options records Cohort.all = none ∧
            cdfs = curves records Cohort.all := by
  cases parsed with
  | error other =>
      unfold surveyResult
      simp
  | ok records =>
      rcases surveyResult_ok_cases options records with
        ⟨hFirst, hResult⟩ | ⟨empty, hFirst, hResult⟩
      · simp [hResult, hFirst, eq_comm]
      · simp [hResult, hFirst]

/- Empty cohorts that are allowed but do not occur make no
   difference. -/
theorem surveyResult_lenient
    (hOk : surveyResult options parsed = .ok cdfs) :
    surveyResult { options with allowEmpty := true } parsed =
      .ok cdfs := by
  rcases surveyResult_eq_ok_iff.mp hOk with
    ⟨records, hParsed, -, hCurves⟩
  exact
    surveyResult_eq_ok_iff.mpr
      ⟨records, hParsed,
        firstEmpty?_eq_none_iff.mpr (Or.inl rfl), hCurves⟩

theorem surveyEvents_lenient
    (input : Path)
    (hOk : surveyResult options parsed = .ok cdfs) :
    surveyEvents input { options with allowEmpty := true }
        parsed =
      surveyEvents input options parsed := by
  rcases surveyResult_eq_ok_iff.mp hOk with
    ⟨records, rfl, hNone, -⟩
  unfold surveyEvents
  dsimp only
  rw [surveyed_of_none hNone,
    surveyed_of_none
      (firstEmpty?_eq_none_iff.mpr (Or.inl rfl))]

/- What is printed when a survey has a result. -/
theorem filterMap_surveyEvents
    (input : Path)
    (options : PlotOptions)
    (records : List Record) :
    (surveyEvents input options (.ok records)).filterMap
        Event.printedLine? =
      (curves records
        (surveyed options records Cohort.all)).map
          summaryLine := by
  unfold surveyEvents
  dsimp only
  rw [List.filterMap_append, filterMap_loadEvents,
    filterMap_cohortEvent, List.nil_append]

------------------------------------------------------------
-- Ends of a Report
------------------------------------------------------------

/-
  A report fails in the survey and has changed nothing, or
  in writing its files, or it results in the curves.
-/
theorem plotTrace_cases
    [ChartLibrary]
    (input : Path)
    (schema : Schema)
    (options : PlotOptions)
    (w : World σ) :
    let parsed := schema.parse input w.tree
    let told := w.told (surveyEvents input options parsed)
    let paths := ReportPaths.ofInput input
    (∃ e,
        surveyResult options parsed = .error e ∧
          plotTrace input schema options w =
            (.error e, told)) ∨
      ∃ cdfs,
        surveyResult options parsed = .ok cdfs ∧
          ((∃ e final,
              writeReport paths options cdfs told =
                  (.error e, final) ∧
                plotTrace input schema options w =
                  (.error e, final)) ∨
            ∃ final,
              writeReport paths options cdfs told =
                  (.ok (), final) ∧
                plotTrace input schema options w =
                  (.ok cdfs, final)) := by
  dsimp only
  unfold plotTrace
  rw [surveyTrace_eq]
  cases hResult :
      surveyResult options (schema.parse input w.tree) with
  | error e => exact Or.inl ⟨e, rfl, rfl⟩
  | ok cdfs =>
      right
      refine ⟨cdfs, rfl, ?_⟩
      dsimp only
      rcases hWrite : writeReport (.ofInput input) options cdfs
          (w.told (surveyEvents input options
            (schema.parse input w.tree))) with ⟨result, final⟩
      cases result with
      | error e => exact Or.inl ⟨e, final, rfl, rfl⟩
      | ok done => exact Or.inr ⟨final, rfl, rfl⟩

------------------------------------------------------------
-- Order of the Records
------------------------------------------------------------

theorem Cohort.curve?_eq_of_perm
    (hPerm : records.Perm others)
    (cohort : Cohort) :
    cohort.curve? records = cohort.curve? others := by
  unfold Cohort.curve?
  rw [Cdf.ofSamples?_eq_of_perm (cohort.samples_perm hPerm)]

theorem Cohort.hasRecord_iff_of_perm
    (hPerm : records.Perm others)
    (cohort : Cohort) :
    cohort.HasRecord records ↔ cohort.HasRecord others := by
  unfold HasRecord
  simp only [hPerm.mem_iff]

theorem surveyResult_eq_of_perm
    (hPerm : records.Perm others)
    (options : PlotOptions) :
    surveyResult options (.ok records) =
      surveyResult options (.ok others) := by
  unfold surveyResult curvesOrEmpty firstEmpty? curves
  simp only [Cohort.hasRecord_iff_of_perm hPerm,
    funext (Cohort.curve?_eq_of_perm hPerm)]

theorem surveyEvents_eq_of_perm
    (hPerm : records.Perm others)
    (input : Path)
    (options : PlotOptions) :
    surveyEvents input options (.ok records) =
      surveyEvents input options (.ok others) := by
  have hEvent :
      cohortEvent input records = cohortEvent input others := by
    funext cohort
    unfold cohortEvent
    rw [Cohort.curve?_eq_of_perm hPerm]
  have hSurveyed (cohorts : List Cohort) :
      surveyed options records cohorts =
        surveyed options others cohorts := by
    unfold surveyed
    simp only [Cohort.hasRecord_iff_of_perm hPerm]
  unfold surveyEvents loadEvents
  dsimp only
  rw [hEvent, hSurveyed, hPerm.length_eq, hPerm.countP_eq]

end LatencySweep
