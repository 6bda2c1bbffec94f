import LatencySweep.Proofs.Pool.LateChecks
import LatencySweep.Proofs.Summary.Status

/-
  How a sweep is aborted.

  The first report that calls for an abort raises the flag
  and says so in the log. Until then no run is skipped, and
  from then on no run is begun, so no more runs than there
  are workers go wrong before their analyses.

  Main declarations:
    * `Stage.mayAbort`
    * `Announced`
    * `Pool.IsWatched`
    * `Sweep.deeds`
    * `AbortProtocol`
    * `Sweep.abort_protocol`
-/

namespace LatencySweep

variable {σ : Type}
variable {sweep : Sweep} {runner : Runner σ}

------------------------------------------------------------
-- Judged Reports
------------------------------------------------------------

/- The report that has been judged. -/
def Stage.judged? : Stage → Option RunReport
  | held (.sending report) => some report
  | reported report => some report
  | _ => none

/- An advance takes back no judgement. -/
theorem Advance.judged?_keeps
    {before after : Stage}
    {flag flag' : Bool}
    {w w' : World σ}
    {report : RunReport}
    (hAdvance :
      Advance sweep runner before flag w after flag' w')
    (hJudged : before.judged? = some report) :
    after.judged? = some report := by
  cases hAdvance with
  | send | receive => exact hJudged
  | _ => cases hJudged

/- The report on a run that was aborted was fatal. -/
theorem Sweep.isAborting_iff {report : RunReport} :
    sweep.isAborting report = true ↔
      sweep.onFailure = .abort ∧
        report.status.isFatal = true := by
  simp [isAborting]

/-
  An advance either raises the flag for the report it judges
  and says so, or it leaves the flag and says no such thing.
-/
theorem Advance.raises_or_keeps
    {before after : Stage}
    {flag flag' : Bool}
    {w w' : World σ}
    (hAdvance :
      Advance sweep runner before flag w after flag' w') :
    (∃ report,
      flag = false ∧ flag' = true ∧
        after.judged? = some report ∧
        sweep.isAborting report = true ∧
        w' = Sweep.logAbort report w) ∨
      flag' = flag ∧
        w.Adds w' runner.Owns ∧
        ∀ report,
          after.judged? = some report →
            before.judged? = some report ∨
              (sweep.isAborting report = true →
                flag = true) := by
  by_cases hJudging :
      ∃ report, before = .held (.judging report)
  · rcases hJudging with ⟨report, rfl⟩
    cases hAdvance with
    | alarm hAborting =>
        exact
          Or.inl ⟨report, rfl, rfl, rfl, hAborting, rfl⟩
    | judge hCalm =>
        refine Or.inr ⟨rfl, .refl w _, ?_⟩
        intro other hOther
        cases hOther
        exact Or.inr hCalm
  · have hAdds : w.Adds w' runner.Owns :=
      hAdvance.adds fun report hSame =>
        hJudging ⟨report, hSame⟩
    cases hAdvance with
    | alarm | judge => exact absurd ⟨_, rfl⟩ hJudging
    | send | receive =>
        exact Or.inr ⟨rfl, hAdds, fun _ hSame => Or.inl hSame⟩
    | take | skip | proceed | prepare | refuse | simulate
    | misfire | analyze | conclude =>
        exact Or.inr ⟨rfl, hAdds, nofun⟩

------------------------------------------------------------
-- Runs That May Call for an Abort
------------------------------------------------------------

/- The tuple is run, or its report calls for an abort. -/
def Stage.mayAbort (sweep : Sweep) : Stage → Bool
  | waiting _ => false
  | held .idle => false
  | held (.checking _) => false
  | held (.preparing _) => true
  | held (.simulating _ _) => true
  | held (.analyzing _ _ _ _) => true
  | held (.judging report) => sweep.isAborting report
  | held (.sending report) => sweep.isAborting report
  | reported report => sweep.isAborting report

/- A run begins only while the flag is down. -/
theorem Advance.mayAbort_of_mayAbort
    {before after : Stage}
    {flag flag' : Bool}
    {w w' : World σ}
    (hAdvance :
      Advance sweep runner before flag w after flag' w')
    (hAfter : after.mayAbort sweep = true) :
    before.mayAbort sweep = true ∨
      before.isHeld = true ∧ flag = false := by
  cases hAdvance with
  | take => cases hAfter
  | @skip tuple w =>
      have hCalm := sweep.isAborting_skippedReport tuple
      exact absurd (hCalm.symm.trans hAfter) nofun
  | proceed => exact Or.inr ⟨rfl, rfl⟩
  | prepare | refuse | simulate | misfire | analyze
  | conclude => exact Or.inl rfl
  | alarm | judge | send | receive => exact Or.inl hAfter

/- A tuple that may call for an abort and was not judged to
   do so is held by a worker. -/
theorem Stage.isHeld_of_mayAbort
    {stage : Stage}
    (hStage : stage.mayAbort sweep = true)
    (hCalm :
      ∀ report,
        stage.judged? = some report →
          sweep.isAborting report = false) :
    stage.isHeld = true := by
  cases stage with
  | waiting tuple => cases hStage
  | held worker => rfl
  | reported report =>
      have hReport := hCalm report rfl
      rw [mayAbort, hReport] at hStage
      cases hStage

/- The flag is up whenever a tuple was skipped. -/
def Stage.SkippedOnlyIf
    (flag : Bool)
    (stage : Stage) : Prop :=
  ∀ report,
    stage.report? = some report →
      report.status = .skipped → flag = true

theorem Advance.skippedOnlyIf
    {before after : Stage}
    {flag flag' : Bool}
    {w w' : World σ}
    (hAdvance :
      Advance sweep runner before flag w after flag' w')
    (hBefore : before.SkippedOnlyIf flag) :
    after.SkippedOnlyIf flag' := by
  intro report hReport hSkipped
  cases hAdvance with
  | skip => rfl
  | alarm => rfl
  | judge | send | receive =>
      exact hBefore report hReport hSkipped
  | refuse | misfire | conclude =>
      cases hReport
      rw [RunReport.status_eq_skipped_iff] at hSkipped
      cases hSkipped
  | take | proceed | prepare | simulate | analyze =>
      cases hReport

------------------------------------------------------------
-- Notices
------------------------------------------------------------

/- The abort was said to be due to the report, and apart
   from programs nothing else has said so. -/
def Announced
    (runner : Runner σ)
    (report : RunReport)
    (w next : World σ) : Prop :=
  ∃ middle,
    w.Adds middle runner.Owns ∧
      (Sweep.logAbort report middle).Adds next runner.Owns

/- The report said to be the reason has been judged, and it
   called for the abort. -/
def IsAlarmed
    (sweep : Sweep)
    (runner : Runner σ)
    (stages : List Stage)
    (w next : World σ) : Prop :=
  ∃ report, ∃ stage ∈ stages,
    stage.judged? = some report ∧
      sweep.isAborting report = true ∧
      Announced runner report w next

/- No report that was judged has called for an abort, and
   nothing was said of one. -/
structure IsCalm
    (sweep : Sweep)
    (runner : Runner σ)
    (stages : List Stage)
    (w next : World σ) : Prop where
  unannounced : w.Adds next runner.Owns
  judged_calm :
    ∀ stage ∈ stages,
      ∀ report,
        stage.judged? = some report →
          sweep.isAborting report = false

/- The flag tells which of the two it is. -/
def FlagTells
    (sweep : Sweep)
    (runner : Runner σ)
    (origin : World σ)
    (stages : List Stage)
    (flag : Bool)
    (w : World σ) : Prop :=
  match flag with
  | true => IsAlarmed sweep runner stages origin w
  | false => IsCalm sweep runner stages origin w

theorem FlagTells.advance
    {origin w w' : World σ}
    {before after : Stage}
    {others : List Stage}
    {flag flag' : Bool}
    (hAdvance :
      Advance sweep runner before flag w after flag' w')
    (hBefore :
      FlagTells sweep runner origin (before :: others)
        flag w) :
    FlagTells sweep runner origin (after :: others)
      flag' w' := by
  rcases hAdvance.raises_or_keeps with
    ⟨report, rfl, rfl, hJudged, hAborting, rfl⟩ |
      ⟨hKept, hAdds, hNew⟩
  · exact
      ⟨report, after, List.mem_cons_self, hJudged,
        hAborting, w, hBefore.unannounced, .refl _ _⟩
  · subst hKept
    cases flag' with
    | true =>
        rcases hBefore with
          ⟨report, stage, hStage, hJudged, hAborting,
            middle, hEarly, hLate⟩
        have hAnnounced :
            Announced runner report origin w' :=
          ⟨middle, hEarly, hLate.trans hAdds⟩
        rcases List.mem_cons.mp hStage with rfl | hOther
        · exact
            ⟨report, after, List.mem_cons_self,
              hAdvance.judged?_keeps hJudged, hAborting,
              hAnnounced⟩
        · exact
            ⟨report, stage, List.mem_cons_of_mem _ hOther,
              hJudged, hAborting, hAnnounced⟩
    | false =>
        refine
          { unannounced := hBefore.unannounced.trans hAdds
            judged_calm := ?_ }
        intro stage hStage report hJudged
        rcases List.mem_cons.mp hStage with rfl | hOther
        · rcases hNew report hJudged with hOld | hCalm
          · exact
              hBefore.judged_calm before
                List.mem_cons_self report hOld
          · exact Bool.eq_false_iff.mpr
              fun hAborting =>
                Bool.noConfusion (hCalm hAborting)
        · exact
            hBefore.judged_calm stage
              (List.mem_cons_of_mem _ hOther) report hJudged

/- The order of the stages does not matter. -/
theorem FlagTells.perm
    {origin w : World σ}
    {stages others : List Stage}
    {flag : Bool}
    (hPerm : stages.Perm others)
    (hTells : FlagTells sweep runner origin stages flag w) :
    FlagTells sweep runner origin others flag w := by
  cases flag with
  | true =>
      rcases hTells with ⟨report, stage, hStage, hRest⟩
      exact ⟨report, stage, hPerm.subset hStage, hRest⟩
  | false =>
      exact
        { unannounced := hTells.unannounced
          judged_calm := fun stage hStage =>
            hTells.judged_calm stage
              (hPerm.symm.subset hStage) }

------------------------------------------------------------
-- Watched Sweeps
------------------------------------------------------------

namespace Pool

/- What is kept of a sweep that can be aborted. -/
structure IsWatched
    (sweep : Sweep)
    (runner : Runner σ)
    (origin : World σ)
    (stages : List Stage)
    (flag : Bool)
    (w : World σ) : Prop where
  flag_tells : FlagTells sweep runner origin stages flag w
  skipped_only_if :
    ∀ stage ∈ stages, stage.SkippedOnlyIf flag
  few :
    stages.countP (Stage.mayAbort sweep) ≤
      sweep.concurrency

/- There are few runs that may call for an abort, since one
   that begins is held by one of the workers, and so are all
   others as long as the flag is down. -/
theorem IsWatched.few_advance
    {origin w w' : World σ}
    {before after : Stage}
    {others : List Stage}
    {flag flag' : Bool}
    (hAdvance :
      Advance sweep runner before flag w after flag' w')
    (hHeld :
      (before :: others).countP Stage.isHeld ≤
        sweep.concurrency)
    (hBefore :
      IsWatched sweep runner origin (before :: others)
        flag w) :
    (after :: others).countP (Stage.mayAbort sweep) ≤
      sweep.concurrency := by
  have hFew := hBefore.few
  rw [List.countP_cons] at hFew hHeld ⊢
  by_cases hAfter : after.mayAbort sweep = true
  · rw [if_pos hAfter]
    rcases hAdvance.mayAbort_of_mayAbort hAfter with
      hMay | ⟨hWorker, rfl⟩
    · rwa [if_pos hMay] at hFew
    · rw [if_pos hWorker] at hHeld
      have hOthers :
          others.countP (Stage.mayAbort sweep) ≤
            others.countP Stage.isHeld := by
        apply List.countP_mono_left
        intro stage hStage hMay
        apply Stage.isHeld_of_mayAbort hMay
        exact
          hBefore.flag_tells.judged_calm stage
            (List.mem_cons_of_mem _ hStage)
      omega
  · rw [if_neg hAfter]
    omega

theorem IsWatched.advance
    {origin w w' : World σ}
    {before after : Stage}
    {others : List Stage}
    {flag flag' : Bool}
    (hAdvance :
      Advance sweep runner before flag w after flag' w')
    (hHeld :
      (before :: others).countP Stage.isHeld ≤
        sweep.concurrency)
    (hBefore :
      IsWatched sweep runner origin (before :: others)
        flag w) :
    IsWatched sweep runner origin (after :: others)
      flag' w' := by
  refine
    { flag_tells := hBefore.flag_tells.advance hAdvance
      skipped_only_if := ?_
      few := hBefore.few_advance hAdvance hHeld }
  intro stage hStage
  rcases List.mem_cons.mp hStage with rfl | hOther
  · exact hAdvance.skippedOnlyIf
      (hBefore.skipped_only_if before List.mem_cons_self)
  · intro report hReport hSkipped
    have hFlag :=
      hBefore.skipped_only_if stage
        (List.mem_cons_of_mem _ hOther) report hReport
        hSkipped
    rcases hAdvance.raises_or_keeps with
      ⟨_, _, hRaised, _⟩ | ⟨hKept, _⟩
    · exact hRaised
    · exact hKept.trans hFlag

/- At first, no tuple has a report. -/
theorem isWatched_start
    {origin ready : World σ}
    (hReady : origin.Adds ready runner.Owns) :
    IsWatched sweep runner origin
      (start sweep ready).stages false ready := by
  rw [stages_start]
  refine
    { flag_tells :=
        { unannounced := hReady
          judged_calm := ?_ }
      skipped_only_if := ?_
      few := ?_ }
  · intro stage hStage report hJudged
    rcases List.mem_map.mp hStage with ⟨tuple, _, rfl⟩
    cases hJudged
  · intro stage hStage report hReport
    rcases List.mem_map.mp hStage with ⟨tuple, _, rfl⟩
    cases hReport
  · rw [List.countP_map]
    simp [Function.comp_def, Stage.mayAbort]

/- The sweep is watched throughout. -/
theorem isWatched_of_follow
    {moves : List Move}
    {origin ready : World σ}
    {pool : Pool σ}
    (hReady : origin.Adds ready runner.Owns)
    (hFollow :
      (start sweep ready).follow? sweep runner moves =
        some pool) :
    IsWatched sweep runner origin pool.stages pool.aborted
      pool.world := by
  refine deeds_induction
    (fun _ stages flag w =>
      IsWatched sweep runner origin stages flag w)
    ?_ (fun hAdvance hHeld => IsWatched.advance hAdvance hHeld)
    [] hFollow List.length_replicate
    (isWatched_start hReady)
  intro _ stages others flag w hPerm hStages
  exact
    { flag_tells := hStages.flag_tells.perm hPerm
      skipped_only_if := fun stage hStage =>
        hStages.skipped_only_if stage
          (hPerm.symm.subset hStage)
      few := hPerm.countP_eq _ ▸ hStages.few }

end Pool

------------------------------------------------------------
-- The Protocol
------------------------------------------------------------

/- The deeds of the workers in a scheduled sweep. -/
def Sweep.deeds
    (sweep : Sweep)
    (runner : Runner σ)
    (schedule : List Move)
    (w : World σ) : List (Deed σ) :=
  let pool := Pool.start sweep (sweep.start runner w).2
  pool.deeds sweep runner schedule

/-
  What holds of every sweep that returns a summary. Apart
  from the summary itself, all events since the start are
  accounted for by the deeds of the workers.
-/
structure AbortProtocol
    (sweep : Sweep)
    (runner : Runner σ)
    (schedule : List Move)
    (w : World σ)
    (summary : SweepSummary)
    (final : World σ) : Prop where
  accounted :
    final.events =
      (sweep.start runner w).2.events ++
        (sweep.deeds runner schedule w).flatMap
          Deed.events ++
        [.logged .info summary.toText]
  late_checks_skip :
    ∀ tuple ∈ sweep.grid.tuples,
      IsLate sweep (sweep.deeds runner schedule w) tuple →
        IsQuiet (sweep.deeds runner schedule w) tuple ∧
        sweep.skippedReport tuple ∈ summary.reports ∧
        ∀ report ∈ summary.reports,
          report.tuple = tuple →
            report = sweep.skippedReport tuple
  few_fatal :
    sweep.onFailure = .abort →
      summary.reports.countP (·.status.isFatal) ≤
        sweep.concurrency
  skipped_only_after_fatal :
    ∀ report ∈ summary.reports,
      report.status = .skipped →
        ∃ other ∈ summary.reports,
          other.status.isFatal = true
  announced_once :
    sweep.onFailure = .abort →
      (∃ report ∈ summary.reports,
        report.status.isFatal = true) →
      ∃ report ∈ summary.reports,
        report.status.isFatal = true ∧
          Announced runner report w final
  unannounced :
    (sweep.onFailure = .abort →
      ∀ report ∈ summary.reports,
        report.status.isFatal = false) →
      w.Adds final runner.Owns
  never_skipped :
    sweep.onFailure ≠ .abort →
      ∀ report ∈ summary.reports,
        report.status ≠ .skipped

/- A notice that was given is not taken back. -/
theorem Announced.trans
    {report : RunReport}
    {w middle next : World σ}
    (hAnnounced : Announced runner report w middle)
    (hAdds : middle.Adds next runner.Owns) :
    Announced runner report w next := by
  rcases hAnnounced with ⟨early, hEarly, hLate⟩
  exact ⟨early, hEarly, hLate.trans hAdds⟩

namespace Pool

/- The reports of a pool that is done, in any order. -/
variable {origin : World σ} {pool : Pool σ}
variable {reports : List RunReport}
variable
  (hWatched :
    IsWatched sweep runner origin pool.stages pool.aborted
      pool.world)
  (hDone : pool.IsDone)
  (hPerm : reports.Perm pool.received)
include hWatched hDone hPerm

/- The flag is up only if some report has called for an
   abort and was announced. -/
theorem exists_aborting_of_aborted
    (hAborted : pool.aborted = true) :
    ∃ report ∈ reports,
      sweep.isAborting report = true ∧
        Announced runner report origin pool.world := by
  have hTells := hWatched.flag_tells
  rw [hAborted, stages_of_isDone hDone] at hTells
  rcases hTells with
    ⟨report, stage, hStage, hJudged, hAborting,
      hAnnounced⟩
  rcases List.mem_map.mp hStage with ⟨other, hOther, rfl⟩
  cases hJudged
  exact
    ⟨report, hPerm.symm.subset hOther, hAborting,
      hAnnounced⟩

/- If it is down, none has. -/
theorem unannounced_of_not_aborted
    (hAborted : pool.aborted = false) :
    origin.Adds pool.world runner.Owns ∧
      ∀ report ∈ reports,
        sweep.isAborting report = false := by
  have hTells := hWatched.flag_tells
  rw [hAborted, stages_of_isDone hDone] at hTells
  refine ⟨hTells.unannounced, ?_⟩
  intro report hReport
  exact hTells.judged_calm (.reported report)
    (List.mem_map_of_mem (hPerm.subset hReport)) report rfl

/- A report says that its tuple was skipped only if some
   other one called for an abort. -/
theorem exists_aborting_of_skipped
    {report : RunReport}
    (hReport : report ∈ reports)
    (hSkipped : report.status = .skipped) :
    ∃ other ∈ reports, sweep.isAborting other = true := by
  have hStages := hWatched.skipped_only_if
  rw [stages_of_isDone hDone] at hStages
  have hAborted :=
    hStages (.reported report)
      (List.mem_map_of_mem (hPerm.subset hReport)) report
      rfl hSkipped
  rcases exists_aborting_of_aborted hWatched hDone hPerm
      hAborted with ⟨other, hOther, hAborting, _⟩
  exact ⟨other, hOther, hAborting⟩

/- Under the policy to abort, few reports are fatal. -/
theorem countP_isFatal_le
    (hPolicy : sweep.onFailure = .abort) :
    reports.countP (·.status.isFatal) ≤
      sweep.concurrency := by
  have hFew := hWatched.few
  rw [stages_of_isDone hDone, List.countP_map] at hFew
  calc
    reports.countP (·.status.isFatal)
        = reports.countP sweep.isAborting := by
          apply List.countP_congr
          intro report _
          simp [Sweep.isAborting_iff, hPolicy]
    _ = pool.received.countP sweep.isAborting :=
        hPerm.countP_eq _
    _ ≤ sweep.concurrency := hFew

/- A fatal report is announced, or another one is. -/
theorem exists_announced
    (hPolicy : sweep.onFailure = .abort)
    {fatal : RunReport}
    (hFatal : fatal ∈ reports)
    (hStatus : fatal.status.isFatal = true) :
    ∃ report ∈ reports,
      report.status.isFatal = true ∧
        Announced runner report origin pool.world := by
  have hAborted : pool.aborted = true := by
    by_contra hDown
    have hCalm :=
      (unannounced_of_not_aborted hWatched hDone hPerm
        (Bool.eq_false_iff.mpr hDown)).2 fatal hFatal
    rw [Sweep.isAborting_iff.mpr ⟨hPolicy, hStatus⟩]
      at hCalm
    cases hCalm
  rcases exists_aborting_of_aborted hWatched hDone hPerm
      hAborted with
    ⟨report, hReport, hAborting, hAnnounced⟩
  exact
    ⟨report, hReport, (Sweep.isAborting_iff.mp hAborting).2,
      hAnnounced⟩

/- Without a fatal report, nothing is announced. -/
theorem adds_of_no_fatal
    (hNone :
      sweep.onFailure = .abort →
        ∀ report ∈ reports,
          report.status.isFatal = false) :
    origin.Adds pool.world runner.Owns := by
  cases hAborted : pool.aborted with
  | true =>
      rcases exists_aborting_of_aborted hWatched hDone hPerm
          hAborted with ⟨report, hReport, hAborting, _⟩
      rcases Sweep.isAborting_iff.mp hAborting with
        ⟨hPolicy, hStatus⟩
      rw [hNone hPolicy report hReport] at hStatus
      cases hStatus
  | false =>
      exact
        (unannounced_of_not_aborted hWatched hDone hPerm
          hAborted).1

end Pool

/-
  However the workers are timed, a tuple that is checked
  after the flag was raised is left alone and reported as
  skipped, at most one run for each worker is fatal, no run
  is skipped unless one was, and the abort is announced once
  if one was and is not announced otherwise.
-/
theorem Sweep.abort_protocol
    {schedule : List Move}
    {w final : World σ}
    {summary : SweepSummary}
    (hRun :
      sweep.runScheduled? runner schedule w =
        some (.ok summary, final)) :
    AbortProtocol sweep runner schedule w summary final := by
  rcases runScheduled?_eq_ok hRun with
    ⟨ready, pool, hStart, hFollow, hDone, hReports, rfl⟩
  have hWatched :=
    Pool.isWatched_of_follow
      (World.adds_start runner hStart) hFollow
  have hPerm : summary.reports.Perm pool.received := by
    rw [hReports]
    exact inGridOrder_perm pool.received
  have hEnd :
      pool.world.Adds
        (pool.world.log .info summary.toText)
        runner.Owns :=
    .log _ (runner.owns_logged _ (by decide))
  have hDeeds :
      sweep.deeds runner schedule w =
        (Pool.start sweep ready).deeds sweep runner
          schedule := by
    rw [deeds, hStart]
  constructor
  case accounted =>
    rw [hDeeds, hStart]
    have hEvents := Pool.events_of_deeds hFollow
    exact congrArg (· ++ [_]) hEvents
  case late_checks_skip =>
    intro tuple hTuple hLate
    rw [hDeeds] at hLate ⊢
    rcases Pool.late_report hFollow hDone hTuple hLate with
      ⟨hQuiet, hSkipped, hOnly⟩
    exact
      ⟨hQuiet, hPerm.symm.subset hSkipped,
        fun report hReport =>
          hOnly report (hPerm.subset hReport)⟩
  case few_fatal =>
    exact Pool.countP_isFatal_le hWatched hDone hPerm
  case skipped_only_after_fatal =>
    intro report hReport hSkipped
    rcases Pool.exists_aborting_of_skipped hWatched hDone
        hPerm hReport hSkipped with
      ⟨other, hOther, hAborting⟩
    exact ⟨other, hOther, (isAborting_iff.mp hAborting).2⟩
  case announced_once =>
    rintro hPolicy ⟨fatal, hFatal, hStatus⟩
    rcases Pool.exists_announced hWatched hDone hPerm
        hPolicy hFatal hStatus with
      ⟨report, hReport, hAgain, hAnnounced⟩
    exact ⟨report, hReport, hAgain, hAnnounced.trans hEnd⟩
  case unannounced =>
    intro hNone
    exact
      (Pool.adds_of_no_fatal hWatched hDone hPerm
        hNone).trans hEnd
  case never_skipped =>
    intro hPolicy report hReport hSkipped
    rcases Pool.exists_aborting_of_skipped hWatched hDone
        hPerm hReport hSkipped with
      ⟨other, _, hAborting⟩
    exact hPolicy (isAborting_iff.mp hAborting).1

------------------------------------------------------------
-- Two Failures Side by Side
------------------------------------------------------------

namespace Sweep

/- A simulator that always exits with code one. -/
def failingSimulator : Runner Unit :=
  Script.runner
    [ { needle := "ns3"
        ending := .exits (some 1) ⟨0⟩ } ]

/-
  Two workers check the flag before either of them fails.
  The last tuple is skipped, so that its worker needs three
  moves only.
-/
def sideBySide : List Move :=
  [.take 0 0, .take 1 0] ++
    (List.replicate 6 [.advance 0, .advance 1]).flatten ++
    .take 1 0 :: List.replicate 3 (.advance 1) ++
    List.replicate 3 .receive

theorem abort_protocol_side_by_side :
    ∃ summary final,
      (trio .abort).runScheduled? failingSimulator
          sideBySide (World.start FileTree.empty ()) =
        some (.ok summary, final) ∧
      AbortProtocol (trio .abort) failingSimulator
        sideBySide (World.start FileTree.empty ())
        summary final := by
  have hOk :
      (((trio .abort).runScheduled? failingSimulator
        sideBySide (World.start FileTree.empty ())).map
          fun r => r.1.isOk) = some true := by
    decide +kernel
  rcases exists_of_isOk hOk with ⟨summary, final, hRun⟩
  exact ⟨summary, final, hRun, abort_protocol hRun⟩

end Sweep

end LatencySweep
