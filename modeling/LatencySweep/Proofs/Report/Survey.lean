import LatencySweep.Proofs.Cdf.Samples
import LatencySweep.Proofs.Trace.Cohorts
import LatencySweep.Proofs.Trace.Lines
import LatencySweep.Report.Plot

/-
  Surveying a trace.

  A survey parses the trace and goes through the cohorts, up
  to an empty one that is not allowed. It logs, prints the
  summary of each cohort with records, and changes no file.
  Everything it does is told by the records of the trace.

  Main declarations:
    * `Schema.parse`
    * `curves`
    * `firstEmpty?`
    * `surveyed`
    * `surveyTrace_eq`
-/

namespace LatencySweep

variable {σ : Type}

/- The world after some more events. -/
def World.told (w : World σ) (events : List Event) : World σ :=
  { w with events := w.events ++ events }

theorem World.printedLines_told
    (w : World σ)
    (events : List Event) :
    (w.told events).printedLines =
      w.printedLines ++
        events.filterMap Event.printedLine? :=
  List.filterMap_append

theorem World.told_told
    (w : World σ)
    (first second : List Event) :
    (w.told first).told second = w.told (first ++ second) := by
  unfold told
  rw [← List.append_assoc]

------------------------------------------------------------
-- Loading
------------------------------------------------------------

namespace Schema

/- The records of the trace in a file, or why it has none. -/
def parse
    (schema : Schema)
    (input : Path)
    (tree : FileTree) : Except RecordError (List Record) :=
  match tree.read input with
  | .error cause => .error (.unreadable input.text cause)
  | .ok content => schema.readRecords input.text content

end Schema

/- What the log says about a trace that is loaded. -/
def loadEvents
    (input : Path)
    (parsed : Except RecordError (List Record)) : List Event :=
  .logged .info s!"Loading: {input.text}" ::
    match parsed with
    | .error _ => []
    | .ok records =>
        .logged .debug
            s!"Loaded {records.length} records from {input.text}" ::
          let strays := records.countP fun r => r.IsStray
          if strays = 0 then []
          else
            [.logged .debug
              s!"Dropped {strays} records without a cohort"]

/- Loading a trace only adds to the log. -/
theorem loadClassified_eq
    (input : Path)
    (schema : Schema)
    (w : World σ) :
    loadClassified input schema w =
      (schema.parse input w.tree,
        w.told (loadEvents input
          (schema.parse input w.tree))) := by
  have hTree :
      (w.log .info s!"Loading: {input.text}").tree = w.tree :=
    rfl
  unfold loadClassified Schema.load Schema.parse
  dsimp only
  rw [hTree]
  cases hRead : w.tree.read input with
  | error cause => rfl
  | ok content =>
      dsimp only
      cases hRecords :
          schema.readRecords input.text content with
      | error e => rfl
      | ok records =>
          dsimp only [loadEvents]
          split
          next =>
            simp only [World.log, World.record, World.told,
              List.append_assoc]
            rfl
          next =>
            simp only [World.log, World.record, World.told,
              List.append_assoc]
            rfl

/- Nothing is printed while a trace is loaded. -/
theorem filterMap_loadEvents
    (input : Path)
    (parsed : Except RecordError (List Record)) :
    (loadEvents input parsed).filterMap Event.printedLine? =
      [] := by
  unfold loadEvents
  cases parsed with
  | error e => rfl
  | ok records =>
      dsimp only
      split
      next => rfl
      next => rfl

------------------------------------------------------------
-- Curves
------------------------------------------------------------

/- The distribution of a cohort, if it has records. -/
def Cohort.curve?
    (records : List Record)
    (cohort : Cohort) : Option (Cohort × Cdf) :=
  (Cdf.ofSamples? (cohort.samples records)).map fun cdf =>
    (cohort, cdf)

/- The distributions of those cohorts that have records. -/
def curves
    (records : List Record)
    (cohorts : List Cohort) : List (Cohort × Cdf) :=
  cohorts.filterMap (Cohort.curve? records)

/- The line that is printed for a curve. -/
def summaryLine (curve : Cohort × Cdf) : String :=
  (curve.2.summary curve.1).toText

variable {records : List Record} {cohorts : List Cohort}

theorem mem_curves_iff {curve : Cohort × Cdf} :
    curve ∈ curves records cohorts ↔
      curve.1 ∈ cohorts ∧
        Cdf.ofSamples? (curve.1.samples records) =
          some curve.2 := by
  unfold curves
  rw [List.mem_filterMap]
  constructor
  · rintro ⟨cohort, hMem, hCurve⟩
    rcases Option.map_eq_some_iff.mp hCurve with
      ⟨cdf, hCdf, rfl⟩
    exact ⟨hMem, hCdf⟩
  · rintro ⟨hMem, hCdf⟩
    refine ⟨curve.1, hMem, ?_⟩
    rw [Cohort.curve?, hCdf]
    rfl

/- Whether a cohort has a record decides whether it has a
   curve. -/
theorem curve?_cases
    (records : List Record)
    (cohort : Cohort) :
    ¬ cohort.HasRecord records ∧
        cohort.curve? records = none ∧
        Cdf.ofSamples? (cohort.samples records) = none ∨
      cohort.HasRecord records ∧
        ∃ cdf,
          cohort.curve? records = some (cohort, cdf) ∧
            Cdf.ofSamples? (cohort.samples records) =
              some cdf := by
  unfold Cohort.curve?
  cases hCdf : Cdf.ofSamples? (cohort.samples records) with
  | none =>
      have hNone :=
        Cohort.samples_eq_nil_iff.mp
          (Cdf.ofSamples?_eq_none_iff.mp hCdf)
      exact Or.inl ⟨hNone, rfl, rfl⟩
  | some cdf =>
      refine Or.inr ⟨?_, cdf, rfl, rfl⟩
      by_contra hNone
      rw [Cdf.ofSamples?_eq_none_iff.mpr
        (Cohort.samples_eq_nil_iff.mpr hNone)] at hCdf
      cases hCdf

theorem curves_cons_none
    {cohort : Cohort}
    (hNone : cohort.curve? records = none) :
    curves records (cohort :: cohorts) =
      curves records cohorts :=
  List.filterMap_cons_none hNone

theorem curves_cons_some
    {cohort : Cohort}
    {curve : Cohort × Cdf}
    (hSome : cohort.curve? records = some curve) :
    curves records (cohort :: cohorts) =
      curve :: curves records cohorts :=
  List.filterMap_cons_some hSome

/- There is a curve for each cohort with a record. -/
theorem map_fst_curves
    (records : List Record)
    (cohorts : List Cohort) :
    (curves records cohorts).map Prod.fst =
      cohorts.filter fun cohort =>
        cohort.HasRecord records := by
  induction cohorts with
  | nil => rfl
  | cons cohort cohorts ih =>
      rcases curve?_cases records cohort with
        ⟨hNone, hCurve, -⟩ | ⟨hRecord, cdf, hCurve, -⟩
      · rw [curves_cons_none hCurve,
          List.filter_cons_of_neg (by simpa using hNone), ih]
      · rw [curves_cons_some hCurve, List.map_cons, ih,
          List.filter_cons_of_pos (by simpa using hRecord)]

------------------------------------------------------------
-- Summaries
------------------------------------------------------------

/- The empty cohort that ends a survey. -/
def firstEmpty?
    (options : PlotOptions)
    (records : List Record)
    (cohorts : List Cohort) : Option Cohort :=
  if options.allowEmpty then none
  else cohorts.find? fun cohort => ¬ cohort.HasRecord records

/- All curves, unless the survey is ended. -/
def curvesOrEmpty
    (options : PlotOptions)
    (records : List Record)
    (cohorts : List Cohort) :
    Except CdfError (List (Cohort × Cdf)) :=
  match firstEmpty? options records cohorts with
  | none => .ok (curves records cohorts)
  | some cohort => .error (.emptyCohort cohort)

/- The cohorts up to its end. -/
def surveyed
    (options : PlotOptions)
    (records : List Record)
    (cohorts : List Cohort) : List Cohort :=
  if options.allowEmpty then cohorts
  else cohorts.takeWhile fun cohort => cohort.HasRecord records

/- What is said about a cohort. -/
def cohortEvent
    (input : Path)
    (records : List Record)
    (cohort : Cohort) : Event :=
  match cohort.curve? records with
  | some curve => .printed (summaryLine curve)
  | none =>
      .logged .warn
        (s!"Skipping the {cohort} cohort of {input}, " ++
          "as it has no samples")

section Cohorts

variable {options : PlotOptions} {cohort : Cohort}

/- No empty cohort ends a survey if they are allowed. -/
theorem firstEmpty?_of_allowEmpty
    (hAllow : options.allowEmpty = true)
    (records : List Record)
    (cohorts : List Cohort) :
    firstEmpty? options records cohorts = none :=
  if_pos hAllow

theorem surveyed_of_allowEmpty
    (hAllow : options.allowEmpty = true)
    (records : List Record)
    (cohorts : List Cohort) :
    surveyed options records cohorts = cohorts :=
  if_pos hAllow

/- Otherwise it ends at the first one. -/
theorem firstEmpty?_cons_of_empty
    (hStrict : ¬ options.allowEmpty = true)
    (hNone : ¬ cohort.HasRecord records) :
    firstEmpty? options records (cohort :: cohorts) =
      some cohort := by
  unfold firstEmpty?
  rw [if_neg hStrict,
    List.find?_cons_of_pos (by simpa using hNone)]

theorem surveyed_cons_of_empty
    (hStrict : ¬ options.allowEmpty = true)
    (hNone : ¬ cohort.HasRecord records) :
    surveyed options records (cohort :: cohorts) = [] := by
  unfold surveyed
  rw [if_neg hStrict,
    List.takeWhile_cons_of_neg (by simpa using hNone)]

/- A cohort with records does not end it. -/
theorem firstEmpty?_cons_of_hasRecord
    (hRecord : cohort.HasRecord records) :
    firstEmpty? options records (cohort :: cohorts) =
      firstEmpty? options records cohorts := by
  unfold firstEmpty?
  rw [List.find?_cons_of_neg (by simpa using hRecord)]

theorem surveyed_cons_of_hasRecord
    (hRecord : cohort.HasRecord records) :
    surveyed options records (cohort :: cohorts) =
      cohort :: surveyed options records cohorts := by
  unfold surveyed
  rw [List.takeWhile_cons_of_pos (by simpa using hRecord)]
  split_ifs
  · rfl
  · rfl

end Cohorts

/-
  A survey results in all curves unless it is ended, and it
  says one thing about each cohort up to its end.
-/
theorem summarize_eq
    (input : Path)
    (options : PlotOptions)
    (records : List Record)
    (cohorts : List Cohort)
    (w : World σ) :
    summarize input options records cohorts w =
      (curvesOrEmpty options records cohorts,
        w.told
          ((surveyed options records cohorts).map
            (cohortEvent input records))) := by
  induction cohorts generalizing w with
  | nil =>
      unfold curvesOrEmpty firstEmpty? surveyed World.told
      rw [List.takeWhile_nil, ite_self, List.find?_nil,
        ite_self, List.map_nil, List.append_nil]
      rfl
  | cons cohort cohorts ih =>
      rcases curve?_cases records cohort with
        ⟨hNone, hCurve, hCdf⟩ | ⟨hRecord, cdf, hCurve, hCdf⟩
      · rw [summarize, hCdf, curvesOrEmpty]
        dsimp only
        by_cases hAllow : options.allowEmpty = true
        · rw [if_pos hAllow, ih, curvesOrEmpty,
            firstEmpty?_of_allowEmpty hAllow,
            firstEmpty?_of_allowEmpty hAllow,
            surveyed_of_allowEmpty hAllow,
            surveyed_of_allowEmpty hAllow,
            curves_cons_none hCurve, List.map_cons,
            cohortEvent, hCurve]
          change (_, (w.told [_]).told _) = _
          rw [World.told_told]
          rfl
        · rw [if_neg hAllow,
            firstEmpty?_cons_of_empty hAllow hNone,
            surveyed_cons_of_empty hAllow hNone,
            List.map_nil, World.told, List.append_nil]
      · rw [summarize, hCdf]
        dsimp only
        rw [ih, curvesOrEmpty, curvesOrEmpty,
          firstEmpty?_cons_of_hasRecord hRecord,
          surveyed_cons_of_hasRecord hRecord,
          curves_cons_some hCurve, List.map_cons, cohortEvent,
          hCurve]
        change _ = (_, w.told ([_] ++ _))
        rw [← World.told_told]
        cases firstEmpty? options records cohorts with
        | none => rfl
        | some empty => rfl

/- Among what is said, the summaries are printed. -/
theorem filterMap_cohortEvent
    (input : Path)
    (records : List Record)
    (cohorts : List Cohort) :
    (cohorts.map (cohortEvent input records)).filterMap
        Event.printedLine? =
      (curves records cohorts).map summaryLine := by
  rw [curves, List.filterMap_map, List.map_filterMap]
  apply List.filterMap_congr
  intro cohort _
  unfold Function.comp cohortEvent
  cases cohort.curve? records with
  | none => rfl
  | some curve => rfl

------------------------------------------------------------
-- Surveys
------------------------------------------------------------

/- What a survey of a trace results in. -/
def surveyResult
    (options : PlotOptions) :
    Except RecordError (List Record) →
      Except PlotError (List (Cohort × Cdf))
  | .error e => .error (.record e)
  | .ok records =>
      (curvesOrEmpty options records Cohort.all).mapError .cdf

/- What is said during a survey. -/
def surveyEvents
    (input : Path)
    (options : PlotOptions)
    (parsed : Except RecordError (List Record)) : List Event :=
  loadEvents input parsed ++
    match parsed with
    | .error _ => []
    | .ok records =>
        (surveyed options records Cohort.all).map
          (cohortEvent input records)

/- A survey is told by what is parsed. -/
theorem surveyTrace_eq
    (input : Path)
    (schema : Schema)
    (options : PlotOptions)
    (w : World σ) :
    surveyTrace input schema options w =
      (surveyResult options (schema.parse input w.tree),
        w.told
          (surveyEvents input options
            (schema.parse input w.tree))) := by
  unfold surveyTrace surveyEvents
  rw [loadClassified_eq]
  cases hParse : schema.parse input w.tree with
  | error e =>
      dsimp only
      rw [List.append_nil]
      rfl
  | ok records =>
      dsimp only [surveyResult]
      rw [summarize_eq, World.told_told]
      cases curvesOrEmpty options records Cohort.all with
      | error e => rfl
      | ok cdfs => rfl

end LatencySweep
