import LatencySweep.Proofs.Report.Meaning

/-
  Traces that are rejected.

  A trace that cannot be read, or that lacks records of a
  cohort, is rejected before anything is written. An error
  of the trace comes first, wherever it stands; then the
  first empty cohort decides, and the cohorts in front of it
  have been summed up.

  Main declarations:
    * `Schema.Rejects`
    * `plotTrace_rejected_iff`
    * `LeavesNothingBehind`
    * `leavesNothingBehind`
-/

namespace LatencySweep

variable {σ : Type} {w final : World σ}
variable {input : Path} {schema : Schema}
variable {options : PlotOptions}
variable {cohort : Cohort}

------------------------------------------------------------
-- Errors of a Trace
------------------------------------------------------------

/-
  Why the trace is rejected: it cannot be read, or the first
  line that is not accepted has an error. Lines are counted
  from one.
-/
def Schema.Rejects
    (schema : Schema)
    (tree : FileTree)
    (input : Path)
    (e : RecordError) : Prop :=
  (∃ cause,
      tree.read input = .error cause ∧
        e = .unreadable input.text cause) ∨
    ∃ content front line back,
      tree.read input = .ok content ∧
        content.lines = front ++ line :: back ∧
          (∀ before ∈ front, schema.Accepts before) ∧
            schema.readBytes ⟨input.text, 1 + front.length⟩
              line = .error e

theorem Schema.parse_eq_error_iff
    {tree : FileTree}
    {e : RecordError} :
    schema.parse input tree = .error e ↔
      schema.Rejects tree input e := by
  unfold parse Rejects readRecords
  cases hRead : tree.read input with
  | error cause => simp [eq_comm]
  | ok content => simp [readLines_eq_error_iff]

/- Some error is found if the file or one of its lines is
   not fine. -/
theorem Schema.exists_rejects_iff
    {tree : FileTree} :
    (∃ e, schema.Rejects tree input e) ↔
      (∃ cause, tree.read input = .error cause) ∨
        ∃ content,
          tree.read input = .ok content ∧
            ∃ line ∈ content.lines,
              ¬ schema.Accepts line := by
  simp only [← parse_eq_error_iff]
  unfold parse readRecords
  cases hRead : tree.read input with
  | error cause => simp
  | ok content => simp [exists_readLines_error_iff]

------------------------------------------------------------
-- Rejections
------------------------------------------------------------

theorem not_isUnwritten_record (e : RecordError) :
    ¬ (PlotError.record e).IsUnwritten := by
  intro hUnwritten
  cases hUnwritten

theorem not_isUnwritten_emptyCohort (cohort : Cohort) :
    ¬ (PlotError.cdf (.emptyCohort cohort)).IsUnwritten := by
  intro hUnwritten
  cases hUnwritten

/- The summaries of the cohorts in front of an empty one are
   printed. -/
theorem printedLines_of_firstEmpty
    {records : List Record}
    (hParse : schema.parse input w.tree = .ok records)
    (hFirst :
      firstEmpty? options records Cohort.all = some cohort) :
    ∃ (cdfs : List (Cohort × Cdf)) (back : List Cohort),
      Cohort.all = cdfs.map Prod.fst ++ cohort :: back ∧
        (∀ curve ∈ cdfs, IsCurveOf records curve) ∧
          (w.told (surveyEvents input options
              (schema.parse input w.tree))).printedLines =
            w.printedLines ++ cdfs.map summaryLine := by
  rcases firstEmpty?_eq_some_iff.mp hFirst with
    ⟨hStrict, front, back, hAll, hFront, hEmpty⟩
  refine ⟨curves records front, back, ?_, ?_, ?_⟩
  · rw [map_fst_curves, List.filter_eq_self.mpr, hAll]
    exact fun before hMem => decide_eq_true (hFront before hMem)
  · exact fun curve => isCurveOf_of_mem_curves
  · rw [World.printedLines_told, hParse,
      filterMap_surveyEvents, hAll,
      surveyed_append hStrict hFront hEmpty]

variable [ChartLibrary]

/- A report fails for another reason than writing just if
   the survey does, and then it ends there. -/
theorem plotTrace_rejected_iff
    {e : PlotError}
    (hReason : ¬ e.IsUnwritten) :
    plotTrace input schema options w = (.error e, final) ↔
      surveyResult options (schema.parse input w.tree) =
          .error e ∧
        final =
          w.told (surveyEvents input options
            (schema.parse input w.tree)) := by
  rcases plotTrace_cases input schema options w with
    ⟨found, hSurvey, hPlot⟩ |
      ⟨cdfs, hSurvey,
        ⟨found, last, hWrite, hPlot⟩ | ⟨last, -, hPlot⟩⟩
  · rw [hPlot, hSurvey, Prod.mk.injEq]
    exact and_congr_right fun _ => eq_comm
  · have hOther : found ≠ e := by
      rintro rfl
      exact hReason (isUnwritten_of_writeReport hWrite)
    simp [hPlot, hSurvey, hOther]
  · simp [hPlot, hSurvey]

theorem fst_plotTrace_rejected_iff
    {e : PlotError}
    (hReason : ¬ e.IsUnwritten) :
    (plotTrace input schema options w).1 = .error e ↔
      surveyResult options (schema.parse input w.tree) =
        .error e := by
  constructor
  · intro hError
    have hPlot :
        plotTrace input schema options w =
          (.error e, (plotTrace input schema options w).2) :=
      Prod.ext hError rfl
    exact ((plotTrace_rejected_iff hReason).mp hPlot).1
  · intro hSurvey
    rw [(plotTrace_rejected_iff hReason).mpr ⟨hSurvey, rfl⟩]

------------------------------------------------------------
-- Nothing Left Behind
------------------------------------------------------------

/- When a trace is rejected, why, and what it leaves. -/
structure LeavesNothingBehind
    (input : Path)
    (schema : Schema)
    (options : PlotOptions)
    (w : World σ) : Prop where
  unchanged :
    ∀ e final,
      plotTrace input schema options w = (.error e, final) →
        ((∃ cause, e = .record cause) ∨
          ∃ cohort, e = .cdf (.emptyCohort cohort)) →
          final.tree = w.tree ∧ final.programs = w.programs
  record :
    ∀ e,
      (plotTrace input schema options w).1 =
          .error (.record e) ↔
        schema.Rejects w.tree input e
  someRecord :
    (∃ e,
      (plotTrace input schema options w).1 =
        .error (.record e)) ↔
      (∃ cause, w.tree.read input = .error cause) ∨
        ∃ content,
          w.tree.read input = .ok content ∧
            ∃ line ∈ content.lines, ¬ schema.Accepts line
  silent :
    ∀ e final,
      plotTrace input schema options w =
          (.error (.record e), final) →
        final.printedLines = w.printedLines
  empty :
    ∀ cohort,
      (plotTrace input schema options w).1 =
          .error (.cdf (.emptyCohort cohort)) ↔
        options.allowEmpty = false ∧
          ∃ records,
            schema.Holds w.tree input records ∧
              ∃ front back,
                Cohort.all = front ++ cohort :: back ∧
                  (∀ before ∈ front,
                    before.HasRecord records) ∧
                    ¬ cohort.HasRecord records
  printed :
    ∀ cohort final,
      plotTrace input schema options w =
          (.error (.cdf (.emptyCohort cohort)), final) →
        ∃ (records : List Record)
          (cdfs : List (Cohort × Cdf))
          (back : List Cohort),
          schema.Holds w.tree input records ∧
            Cohort.all =
                cdfs.map Prod.fst ++ cohort :: back ∧
              (∀ curve ∈ cdfs, IsCurveOf records curve) ∧
                final.printedLines =
                  w.printedLines ++ cdfs.map summaryLine
  lenient :
    options.allowEmpty = true →
      ∀ cohort,
        (plotTrace input schema options w).1 ≠
          .error (.cdf (.emptyCohort cohort))

/-
  A trace that is rejected leaves all files as they were,
  for all options and in every world.
-/
theorem leavesNothingBehind
    (input : Path)
    (schema : Schema)
    (options : PlotOptions)
    (w : World σ) :
    LeavesNothingBehind input schema options w := by
  have hRecord (e : RecordError) :
      (plotTrace input schema options w).1 =
          .error (.record e) ↔
        schema.Rejects w.tree input e := by
    rw [fst_plotTrace_rejected_iff (not_isUnwritten_record e),
      surveyResult_eq_record_iff, Schema.parse_eq_error_iff]
  have hEmpty (cohort : Cohort) :
      (plotTrace input schema options w).1 =
          .error (.cdf (.emptyCohort cohort)) ↔
        ∃ records,
          schema.parse input w.tree = .ok records ∧
            firstEmpty? options records Cohort.all =
              some cohort := by
    rw [fst_plotTrace_rejected_iff
        (not_isUnwritten_emptyCohort cohort),
      surveyResult_eq_empty_iff]
  refine
    { unchanged := ?unchanged
      record := hRecord
      someRecord := ?someRecord
      silent := ?silent
      empty := ?empty
      printed := ?printed
      lenient := ?lenient }
  case unchanged =>
    intro e final hPlot hReason
    have hNot : ¬ e.IsUnwritten := by
      rcases hReason with ⟨cause, rfl⟩ | ⟨cohort, rfl⟩
      · exact not_isUnwritten_record cause
      · exact not_isUnwritten_emptyCohort cohort
    rw [((plotTrace_rejected_iff hNot).mp hPlot).2]
    exact ⟨rfl, rfl⟩
  case someRecord =>
    rw [← Schema.exists_rejects_iff]
    exact exists_congr hRecord
  case silent =>
    intro e final hPlot
    rcases (plotTrace_rejected_iff
        (not_isUnwritten_record e)).mp hPlot with
      ⟨hSurvey, rfl⟩
    rw [surveyResult_eq_record_iff.mp hSurvey,
      World.printedLines_told]
    exact List.append_nil _
  case empty =>
    intro cohort
    rw [hEmpty]
    constructor
    · rintro ⟨records, hParse, hFirst⟩
      rcases firstEmpty?_eq_some_iff.mp hFirst with
        ⟨hStrict, hCohorts⟩
      exact
        ⟨hStrict, records, Schema.parse_eq_ok_iff.mp hParse,
          hCohorts⟩
    · rintro ⟨hStrict, records, hHolds, hCohorts⟩
      exact
        ⟨records, Schema.parse_eq_ok_iff.mpr hHolds,
          firstEmpty?_eq_some_iff.mpr ⟨hStrict, hCohorts⟩⟩
  case printed =>
    intro cohort final hPlot
    rcases (plotTrace_rejected_iff
        (not_isUnwritten_emptyCohort cohort)).mp hPlot with
      ⟨hSurvey, rfl⟩
    rcases surveyResult_eq_empty_iff.mp hSurvey with
      ⟨records, hParse, hFirst⟩
    rcases printedLines_of_firstEmpty hParse hFirst with
      ⟨cdfs, back, hPrinted⟩
    exact
      ⟨records, cdfs, back,
        Schema.parse_eq_ok_iff.mp hParse, hPrinted⟩
  case lenient =>
    intro hAllow cohort hError
    rcases (hEmpty cohort).mp hError with
      ⟨records, -, hFirst⟩
    rw [firstEmpty?_eq_none_iff.mpr (Or.inl hAllow)] at hFirst
    cases hFirst

end LatencySweep
