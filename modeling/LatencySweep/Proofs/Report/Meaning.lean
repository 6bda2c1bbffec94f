import LatencySweep.Proofs.Report.Ending
import LatencySweep.Proofs.Report.Files

/-
  What a report means.

  A report that succeeds has a curve for every cohort with a
  record, made of the latencies of just these records. What
  is printed, shown and kept in files are these curves, and
  a curve is read back from its file as it was.

  Main declarations:
    * `Schema.Holds`
    * `shownCurves?`
    * `IsReport`
    * `isReport_of_plotTrace`
-/

namespace LatencySweep

variable {σ : Type} {w final : World σ}
variable {input : Path} {schema : Schema}
variable {options : PlotOptions}
variable {records : List Record}
variable {cohorts : List Cohort} {cdfs : List (Cohort × Cdf)}

------------------------------------------------------------
-- Traces
------------------------------------------------------------

/- The file holds the records: they are what its lines say,
   in order. -/
def Schema.Holds
    (schema : Schema)
    (tree : FileTree)
    (input : Path)
    (records : List Record) : Prop :=
  ∃ content said,
    tree.read input = .ok content ∧
      List.Forall₂ schema.Says content.lines said ∧
        records = said.filterMap id

theorem Schema.parse_eq_ok_iff
    {tree : FileTree} :
    schema.parse input tree = .ok records ↔
      schema.Holds tree input records := by
  unfold parse Holds readRecords
  cases hRead : tree.read input with
  | error cause => simp
  | ok content => simp [readLines_eq_ok_iff]

------------------------------------------------------------
-- Curves
------------------------------------------------------------

/- A curve is made of the latencies of its cohort. -/
structure IsCurveOf
    (records : List Record)
    (curve : Cohort × Cdf) : Prop where
  samples :
    curve.2.x.Perm
      ((records.filter fun record =>
        curve.1.Covers record.callType).map Record.latencyMs)
  sorted :
    curve.2.x.Pairwise fun a b => a.totalLe b = true
  steps : curve.2.y = Cdf.ladder curve.2.x.length

theorem isCurveOf_of_mem_curves
    {curve : Cohort × Cdf}
    (hMem : curve ∈ curves records cohorts) :
    IsCurveOf records curve := by
  rcases Cdf.ofSamples?_eq_some_iff.mp
      (mem_curves_iff.mp hMem).2 with ⟨-, hX, hY⟩
  have hPerm := Cdf.sorted_perm (curve.1.samples records)
  refine { samples := ?_, sorted := ?_, steps := ?_ }
  · rw [hX, ← Cohort.samples_eq]
    exact hPerm
  · rw [hX]
    exact Cdf.pairwise_sorted _
  · rw [hX, hY, hPerm.length_eq]

/- All curves together have each latency of a record in a
   cohort once. -/
theorem flatMap_curves_perm
    (records : List Record)
    (cohorts : List Cohort) :
    ((curves records cohorts).flatMap fun curve =>
        curve.2.x).Perm
      (cohorts.flatMap fun cohort =>
        cohort.samples records) := by
  induction cohorts with
  | nil => exact List.Perm.refl _
  | cons cohort cohorts ih =>
      rcases curve?_cases records cohort with
        ⟨hNone, hCurve, -⟩ | ⟨-, cdf, hCurve, hCdf⟩
      · rw [curves_cons_none hCurve, List.flatMap_cons,
          Cohort.samples_eq_nil_iff.mpr hNone]
        exact ih
      · rw [curves_cons_some hCurve, List.flatMap_cons,
          List.flatMap_cons]
        have hX := (Cdf.ofSamples?_eq_some_iff.mp hCdf).2.1
        rw [hX]
        exact (Cdf.sorted_perm _).append ih

/- Latencies in milliseconds are read back. -/
theorem isCanonical_of_mem_curves
    {tree : FileTree}
    (hParse : schema.parse input tree = .ok records)
    {curve : Cohort × Cdf}
    (hMem : curve ∈ curves records cohorts) :
    curve.2.IsCanonical := by
  apply Cdf.isCanonical_ofSamples? (mem_curves_iff.mp hMem).2
  intro sample hSample
  rw [Cohort.samples_eq] at hSample
  rcases List.mem_map.mp hSample with ⟨record, hRecord, rfl⟩
  have hIn := (List.mem_filter.mp hRecord).1
  have hFinite : record.latency.IsFinite := by
    unfold Schema.parse at hParse
    split at hParse
    next => cases hParse
    next =>
      exact Schema.isFinite_of_readLines hParse hIn
  exact
    Binary64.isCanonical_mul hFinite.not_isNaN
      (Binary64.not_isNaN_ofUnits _ _ _)

------------------------------------------------------------
-- Figures
------------------------------------------------------------

/- What a figure shows of a curve. -/
structure ShownCurve where
  name : String
  x : List Binary64
  y : List Binary64
  deriving DecidableEq

namespace Json

/- The value of the first member with a name. -/
def member? (name : String) : Json → Option Json
  | object members => members.lookup name
  | _ => none

/- A list of numbers. -/
def floats? : Json → Option (List Binary64)
  | array items =>
      items.mapM fun
        | float x => some x
        | _ => none
  | _ => none

/- A curve in the data of a figure. -/
def shownCurve? (json : Json) : Option ShownCurve :=
  match json.member? "name", json.member? "x",
      json.member? "y" with
  | some (string name), some x, some y => do
      some { name, x := ← x.floats?, y := ← y.floats? }
  | _, _, _ => none

/- The curves in the description of a figure. -/
def shownCurves? (json : Json) : Option (List ShownCurve) :=
  match json.member? "data" with
  | some (array items) => items.mapM shownCurve?
  | _ => none

theorem floats?_map (xs : List Binary64) :
    floats? (array (xs.map float)) = some xs := by
  unfold floats?
  induction xs with
  | nil => rfl
  | cons x xs ih =>
      dsimp only at ih ⊢
      rw [List.map_cons, List.mapM_cons, ih]
      rfl

end Json

/- A figure shows its curves, in order. -/
theorem shownCurves?_toJson (figure : Figure) :
    figure.toJson.shownCurves? =
      some (figure.curves.map fun curve =>
        { name := curve.1.name
          x := curve.2.x
          y := curve.2.y }) := by
  have hCurve (curve : Cohort × Cdf) :
      (Figure.curveJson curve.1 curve.2).shownCurve? =
        some
          { name := curve.1.name
            x := curve.2.x
            y := curve.2.y } := by
    change
      ((Json.array _).floats?.bind fun x =>
        (Json.array _).floats?.bind fun y =>
          some (ShownCurve.mk curve.1.name x y)) = _
    rw [Json.floats?_map, Json.floats?_map]
    rfl
  change (figure.curves.map _).mapM Json.shownCurve? = _
  induction figure.curves with
  | nil => rfl
  | cons curve rest ih =>
      rw [List.map_cons, List.mapM_cons, hCurve, ih]
      rfl

------------------------------------------------------------
-- Reports
------------------------------------------------------------

section Reports

variable [ChartLibrary]

/-
  What a report is made of, says, shows and writes. The page
  is what the charting library draws for the figure of the
  listed curves, whichever library this is.
-/
structure IsReport
    (input : Path)
    (schema : Schema)
    (options : PlotOptions)
    (records : List Record)
    (cdfs : List (Cohort × Cdf))
    (w final : World σ) : Prop where
  trace : schema.Holds w.tree input records
  cohorts :
    cdfs.map Prod.fst =
      Cohort.all.filter fun cohort =>
        cohort.HasRecord records
  curves : ∀ curve ∈ cdfs, IsCurveOf records curve
  complete :
    (cdfs.flatMap fun curve => curve.2.x).Perm
      ((records.filter fun record =>
        0 < record.callType).map Record.latencyMs)
  strict :
    options.allowEmpty = false →
      cdfs.map Prod.fst = Cohort.all
  printed :
    final.printedLines =
      w.printedLines ++ cdfs.map summaryLine
  page :
    final.tree.read (ReportPaths.ofInput input).html =
      .ok (Bytes.ofText
        ({ curves := cdfs, xMax := options.xMax } :
          Figure).toPage)
  shown :
    ({ curves := cdfs, xMax := options.xMax } :
        Figure).toJson.shownCurves? =
      some (cdfs.map fun curve =>
        { name := curve.1.name
          x := curve.2.x
          y := curve.2.y })
  readBack :
    ∀ curve ∈ cdfs,
      Cdf.ofFile ((ReportPaths.ofInput input).raw curve.1)
        final.tree = .ok curve.2
  elsewhere :
    ∀ place,
      (∀ output ∈ ReportPaths.outputs (cdfs.map Prod.fst),
        place ≠
          ((ReportPaths.ofInput input).output output).place
            w.tree.workDir) →
        final.tree.find? place = w.tree.find? place
  surroundings :
    final.tree.workDir = w.tree.workDir ∧
      final.tree.executables = w.tree.executables ∧
        final.programs = w.programs
  untouched : final.tree.read input = w.tree.read input
  lenient :
    plotTrace input schema { options with allowEmpty := true }
      w = (.ok cdfs, final)

/- Whether cohorts may be empty does not matter for
   writing. -/
theorem writeReport_lenient
    (paths : ReportPaths)
    (options : PlotOptions)
    (cdfs : List (Cohort × Cdf))
    (w : World σ) :
    writeReport paths { options with allowEmpty := true } cdfs
        w =
      writeReport paths options cdfs w := by
  unfold writeReport skipPdf
  rfl

/- Empty cohorts that are allowed but do not occur make no
   difference to a report. -/
theorem plotTrace_lenient
    (hPlot :
      plotTrace input schema options w = (.ok cdfs, final)) :
    plotTrace input schema { options with allowEmpty := true }
      w = (.ok cdfs, final) := by
  rcases plotTrace_cases input schema options w with
    ⟨e, -, hFail⟩ | ⟨found, hSurvey, hWrite⟩
  · rw [hFail] at hPlot
    cases hPlot
  · rw [← hPlot]
    unfold plotTrace
    rw [surveyTrace_eq, surveyTrace_eq,
      surveyEvents_lenient input hSurvey,
      surveyResult_lenient hSurvey, hSurvey]
    dsimp only
    rw [writeReport_lenient]

end Reports

------------------------------------------------------------
-- An Example
------------------------------------------------------------

attribute [local instance] ChartLibrary.plain

/- A trace named `t.dat` in the working directory. -/
def traceTree (text : String) : FileTree :=
  FileTree.empty.put ["work", "t.dat"]
    (.file (Bytes.ofText text))

/- Four calls, among them one on the network, one that is
   relayed and one of no cohort. -/
def mixedTrace : FileTree :=
  traceTree
    (String.join
      [ "# a comment\n",
        "0 0 0 2 0.25\r\n",
        "0 0 0 0 1\n",
        "\n",
        "0 0 0 1 0.5\n",
        "0 0 0 1 -0" ])

/- A result that is seen to be one. -/
theorem exists_eq_ok_of_isOk
    {ε α : Type}
    {result : Except ε α × World σ}
    (hOk : result.1.isOk = true) :
    ∃ value final, result = (.ok value, final) := by
  rcases result with ⟨e | value, final⟩
  · cases hOk
  · exact ⟨value, final, rfl⟩

end LatencySweep
