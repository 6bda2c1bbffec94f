import LatencySweep.Host.Script
import LatencySweep.Proofs.Isolation.Forecast
import LatencySweep.Proofs.Isolation.Starts
import LatencySweep.Proofs.Pool.Delivery
import LatencySweep.Proofs.Pool.InOrder

/-
  The end of a sweep does not depend on its schedule, and no
  report on what happens to other tuples.

  Every schedule comes to what can be foreseen when the
  sweep is ready, so any two schedules come to the same,
  whatever the numbers of workers. What is foreseen of one
  tuple is told by what stands at the place of its directory
  and by the answers to its own invocations.

  Main declarations:
    * `Sweep.EndsForeseen`
    * `Sweep.CanEnd`
    * `Sweep.EndsAlike`
    * `Sweep.SameOutlook`
    * `Sweep.isolation`
-/

namespace LatencySweep

variable {σ τ : Type}

namespace Sweep

variable {sweep : Sweep}
variable {runner : Runner σ} {runner' : Runner τ}
variable {answer answer' :
  Invocation → Except OsError Outcome}
variable {ready w final : World σ}

------------------------------------------------------------
-- Foreseen Ends
------------------------------------------------------------

/- The sweep ends as foreseen when it was ready: with these
   reports up to times, with these invocations in any order,
   and with these directories. -/
structure EndsForeseen
    (sweep : Sweep)
    (answer : Invocation → Except OsError Outcome)
    (ready : World σ)
    (result : Except SweepError SweepSummary)
    (final : World σ) : Prop where
  result :
    untimedEnd result =
      .ok
        { reports :=
            sweep.grid.tuples.map fun tuple =>
              sweep.foretold answer
                (sweep.prospect ready tuple) tuple }
  invocations :
    final.invocations.Perm
      (ready.invocations ++
        sweep.grid.tuples.flatMap fun tuple =>
          sweep.foretoldCalls answer
            (sweep.prospect ready tuple) tuple)
  directories :
    ∀ tuple ∈ sweep.grid.tuples,
      final.tree.standing (sweep.outputDir tuple) =
        sweep.settled ready tuple

/- A pool that is done has come to the foreseen end. -/
theorem endsForeseen_of_isDone
    {pool : Pool σ}
    (hForeseen :
      Foreseen sweep answer ready pool.stages pool.aborted
        pool.world)
    (hDone : pool.IsDone) :
    sweep.EndsForeseen answer ready
      (.ok (finish (inGridOrder pool.received)
        pool.world).1)
      (finish (inGridOrder pool.received) pool.world).2 := by
  have hStages := Pool.stages_of_isDone hDone
  have hTuples := hForeseen.tuples
  rw [hStages, List.filterMap_map] at hTuples
  have hReceived :
      (pool.received.map RunReport.tuple).Perm
        sweep.grid.tuples :=
    (List.Perm.of_eq
      (congrFun List.filterMap_eq_map _).symm).trans hTuples
  have hStage
      {report : RunReport}
      (hReport : report ∈ pool.received) :
      Stage.reported report ∈ pool.stages := by
    rw [hStages]
    exact List.mem_map_of_mem hReport
  refine
    { result := ?_
      invocations := ?_
      directories := ?_ }
  · have hReports :
        (inGridOrder pool.received).map RunReport.untimed =
          ((inGridOrder pool.received).map
            RunReport.tuple).map fun tuple =>
              sweep.foretold answer
                (sweep.prospect ready tuple) tuple := by
      rw [List.map_map]
      apply List.map_congr_left
      intro report hReport
      exact
        hForeseen.reports _
          (hStage ((inGridOrder_perm _).subset hReport))
    rw [map_tuple_inGridOrder hReceived] at hReports
    rw [finish, untimedEnd, SweepSummary.untimed, hReports]
  · have hCalls := hForeseen.calls
    have hNone :
        pool.stages.flatMap
            (Stage.due sweep answer ready) = [] := by
      rw [hStages, List.flatMap_map, List.flatMap_eq_nil_iff]
      intro report _
      rfl
    rw [hNone, List.append_nil] at hCalls
    rw [finish, World.invocations_log]
    exact hCalls
  · intro tuple hTuple
    rcases List.mem_map.mp
        (hReceived.symm.subset hTuple) with
      ⟨report, hReport, rfl⟩
    exact
      hForeseen.directories _ (hStage hReport) report.tuple
        rfl

/- Every schedule leads to the foreseen end. -/
theorem endsForeseen
    (hValid : sweep.IsValid)
    (hPolicy : sweep.onFailure ≠ .abort)
    (hChildren : sweep.HasDirectChildren)
    (hAnswers : runner.Answers sweep answer)
    (hSpares : runner.Spares sweep)
    {schedule : List Move}
    {result : Except SweepError SweepSummary}
    (hStart : sweep.start runner w = (.ok (), ready))
    (hRun :
      sweep.runScheduled? runner schedule w =
        some (result, final)) :
    sweep.EndsForeseen answer ready result final := by
  unfold runScheduled? at hRun
  rw [hStart] at hRun
  dsimp only at hRun
  split at hRun
  next => cases hRun
  next pool hFollow =>
    split at hRun
    next hDone =>
      cases hRun
      exact
        endsForeseen_of_isDone
          (Foreseen.follow hValid hPolicy hChildren hAnswers
            hSpares (hasRoot_of_start hSpares hStart)
            hFollow)
          hDone
    next => cases hRun

/- What is foreseen depends on the tree and the invocations
   of the ready world. -/
theorem EndsForeseen.congr
    {ready' : World σ}
    {result : Except SweepError SweepSummary}
    (hEnd : sweep.EndsForeseen answer ready result final)
    (hTree : ready'.tree = ready.tree)
    (hInvocations :
      ready'.invocations = ready.invocations) :
    sweep.EndsForeseen answer ready' result final := by
  have hProspect (tuple : Tuple) :
      sweep.prospect ready' tuple =
        sweep.prospect ready tuple := by
    rw [prospect, prospect, prepare_fst, prepare_fst, hTree]
  refine
    { result := ?_
      invocations := ?_
      directories := ?_ }
  · simp only [hProspect]
    exact hEnd.result
  · simp only [hProspect, hInvocations]
    exact hEnd.invocations
  · intro tuple hTuple
    unfold settled
    rw [hProspect, hTree]
    exact hEnd.directories tuple hTuple

------------------------------------------------------------
-- Schedules
------------------------------------------------------------

/- With some number of workers and under some schedule, the
   sweep can end like this. -/
def CanEnd
    (sweep : Sweep)
    (runner : Runner σ)
    (w : World σ)
    (result : Except SweepError SweepSummary)
    (final : World σ) : Prop :=
  ∃ workers schedule,
    0 < workers ∧
      (sweep.withWorkers workers).runScheduled? runner
          schedule w =
        some (result, final)

/- Two ends of a sweep are the same up to times, the order of
   invocations, and all but the directories of tuples. -/
structure EndsAlike
    (sweep : Sweep)
    (first second :
      Except SweepError SweepSummary × World σ) : Prop where
  result : untimedEnd first.1 = untimedEnd second.1
  invocations :
    first.2.invocations.Perm second.2.invocations
  directories :
    ∀ tuple ∈ sweep.grid.tuples,
      first.2.tree.standing (sweep.outputDir tuple) =
        second.2.tree.standing (sweep.outputDir tuple)

/- A sweep that starts leads to what is foreseen then, with
   any number of workers. -/
theorem CanEnd.endsForeseen
    (hValid : sweep.IsValid)
    (hPolicy : sweep.onFailure ≠ .abort)
    (hChildren : sweep.HasDirectChildren)
    (hAnswers : runner.Answers sweep answer)
    (hSpares : runner.Spares sweep)
    {result : Except SweepError SweepSummary}
    (hStart : sweep.start runner w = (.ok (), ready))
    (hEnd : sweep.CanEnd runner w result final) :
    sweep.EndsForeseen answer ready result final := by
  rcases hEnd with ⟨workers, schedule, hWorkers, hRun⟩
  rcases exists_start_withWorkers hValid hWorkers hStart with
    ⟨ready', hStart', hTree, hInvocations⟩
  have hWorker :
      (sweep.withWorkers workers).EndsForeseen answer ready'
        result final :=
    Sweep.endsForeseen (hValid.withWorkers hWorkers) hPolicy
      hChildren hAnswers hSpares hStart' hRun
  have hForeseen :
      sweep.EndsForeseen answer ready' result final :=
    { result := hWorker.result
      invocations := hWorker.invocations
      directories := hWorker.directories }
  exact hForeseen.congr hTree.symm hInvocations.symm

/- Handling the tuples one by one is one way to end. -/
theorem canEnd_run
    (hValid : sweep.IsValid)
    (runner : Runner σ)
    (w : World σ) :
    sweep.CanEnd runner w (sweep.run runner w).1
      (sweep.run runner w).2 := by
  rcases exists_schedule hValid.concurrency_pos w with
    ⟨schedule, hSchedule⟩
  exact
    ⟨sweep.concurrency, schedule, hValid.concurrency_pos,
      hSchedule⟩

/- A start that fails is the end with any number of
   workers. -/
theorem CanEnd.of_error
    (hValid : sweep.IsValid)
    {e : SweepError}
    {stopped : World σ}
    {result : Except SweepError SweepSummary}
    (hStart : sweep.start runner w = (.error e, stopped))
    (hEnd : sweep.CanEnd runner w result final) :
    result = .error e ∧
      final.tree = stopped.tree ∧
      final.invocations = stopped.invocations := by
  rcases hEnd with ⟨workers, schedule, hWorkers, hRun⟩
  rcases exists_start_withWorkers hValid hWorkers hStart with
    ⟨stopped', hStart', hTree, hInvocations⟩
  rw [runScheduled?, hStart'] at hRun
  cases hRun
  exact ⟨rfl, hTree, hInvocations⟩

/- Any two ways to end are alike. -/
theorem CanEnd.endsAlike
    (hValid : sweep.IsValid)
    (hPolicy : sweep.onFailure ≠ .abort)
    (hChildren : sweep.HasDirectChildren)
    (hAnswers : runner.Answers sweep answer)
    (hSpares : runner.Spares sweep)
    {result result' : Except SweepError SweepSummary}
    {final' : World σ}
    (hEnd : sweep.CanEnd runner w result final)
    (hEnd' : sweep.CanEnd runner w result' final') :
    sweep.EndsAlike (result, final) (result', final') := by
  rcases hStart : sweep.start runner w with ⟨e | _, ready⟩
  · rcases hEnd.of_error hValid hStart with
      ⟨hResult, hTree, hCalls⟩
    rcases hEnd'.of_error hValid hStart with
      ⟨hResult', hTree', hCalls'⟩
    exact
      { result := by rw [hResult, hResult']
        invocations :=
          List.Perm.of_eq (hCalls.trans hCalls'.symm)
        directories := fun _ _ => by
          rw [hTree, hTree'] }
  · have hForeseen :=
      hEnd.endsForeseen hValid hPolicy hChildren hAnswers
        hSpares hStart
    have hForeseen' :=
      hEnd'.endsForeseen hValid hPolicy hChildren hAnswers
        hSpares hStart
    exact
      { result :=
          hForeseen.result.trans hForeseen'.result.symm
        invocations :=
          hForeseen.invocations.trans
            hForeseen'.invocations.symm
        directories := fun tuple hTuple =>
          (hForeseen.directories tuple hTuple).trans
            (hForeseen'.directories tuple hTuple).symm }

------------------------------------------------------------
-- Single Reports
------------------------------------------------------------

/- The outlook of a tuple is the same: there is the same at
   the place of its directory, and its own invocations are
   answered in the same way. -/
structure SameOutlook
    (sweep : Sweep)
    (tuple : Tuple)
    (answer answer' : Invocation → Except OsError Outcome)
    (tree tree' : FileTree) : Prop where
  workDir : tree'.workDir = tree.workDir
  occupant :
    tree'.occupant (sweep.outputDir tuple) =
      tree.occupant (sweep.outputDir tuple)
  answers :
    ∀ invocation ∈ sweep.invocationsOf tuple,
      answer' invocation = answer invocation

/- The foretold report depends on the answers to the tuple's
   own invocations. -/
theorem foretold_congr
    {tuple : Tuple}
    {verdict : Except DispatchError Path}
    (hDir :
      ∀ dir, verdict = .ok dir → dir = sweep.outputDir tuple)
    (hAnswers :
      ∀ invocation ∈ sweep.invocationsOf tuple,
        answer' invocation = answer invocation) :
    sweep.foretold answer' verdict tuple =
      sweep.foretold answer verdict tuple := by
  unfold foretold
  cases verdict with
  | error e => rfl
  | ok dir =>
      have hSame := hDir dir rfl
      subst hSame
      have hLaunch :
          foretoldLaunch answer'
              (sweep.simulatorInvocation tuple
                (sweep.outputDir tuple)) =
            foretoldLaunch answer
              (sweep.simulatorInvocation tuple
                (sweep.outputDir tuple)) := by
        rw [foretoldLaunch, foretoldLaunch,
          hAnswers _ List.mem_cons_self]
      have hStep
          {step : AnalysisStep}
          (hStep : step ∈ sweep.analyses) :
          step.foretold answer' (sweep.outputDir tuple) =
            step.foretold answer (sweep.outputDir tuple) := by
        rw [AnalysisStep.foretold, AnalysisStep.foretold,
          foretoldLaunch, foretoldLaunch,
          hAnswers _
            (List.mem_cons_of_mem _
              (List.mem_map_of_mem hStep))]
      dsimp only
      rw [hLaunch]
      split
      next => rfl
      next outcome _ =>
        rw [List.map_congr_left fun step hMember =>
          hStep (sweep.stepsAfter_subset outcome hMember)]

/- The foretold report is on the tuple. -/
theorem tuple_foretold
    (sweep : Sweep)
    (answer : Invocation → Except OsError Outcome)
    (verdict : Except DispatchError Path)
    (tuple : Tuple) :
    (sweep.foretold answer verdict tuple).tuple = tuple := by
  unfold foretold
  split
  next => rfl
  next =>
    split
    · rfl
    · rfl

/- The report on a tuple is found under its number, and it is
   the foretold one. -/
theorem EndsForeseen.exists_report
    {summary : SweepSummary}
    (hEnd :
      sweep.EndsForeseen answer ready (.ok summary) final)
    {tuple : Tuple}
    (hTuple : tuple ∈ sweep.grid.tuples) :
    ∃ report,
      summary.reports[tuple.index]? = some report ∧
        report.untimed =
          sweep.foretold answer
            (sweep.prospect ready tuple) tuple := by
  rcases List.mem_iff_getElem?.mp hTuple with
    ⟨place, hPlace⟩
  have hIndex := Grid.index_of_getElem?_tuples hPlace
  rw [← hIndex] at hPlace
  have hReports :
      summary.reports.map RunReport.untimed =
        sweep.grid.tuples.map fun tuple =>
          sweep.foretold answer
            (sweep.prospect ready tuple) tuple :=
    congrArg SweepSummary.reports
      (Except.ok.inj hEnd.result)
  have hReport :=
    congrArg (fun reports => reports[tuple.index]?) hReports
  rw [List.getElem?_map, List.getElem?_map, hPlace]
    at hReport
  exact Option.map_eq_some_iff.mp hReport

/- A sweep that ends with a summary has started. -/
theorem CanEnd.exists_ready
    (hValid : sweep.IsValid)
    {summary : SweepSummary}
    (hEnd : sweep.CanEnd runner w (.ok summary) final) :
    ∃ ready, sweep.start runner w = (.ok (), ready) := by
  rcases hStart : sweep.start runner w with ⟨e | _, ready⟩
  · rcases hEnd.of_error hValid hStart with ⟨hResult, _⟩
    cases hResult
  · exact ⟨ready, rfl⟩

/-
  What can be relied on when several workers share a tree.
  Any number of them can get the sweep done, and all
  schedules end like the one that handles the tuples in
  order. A report stays the same, up to times, when the
  world and the runner change but the outlook of its tuple
  does not.
-/
structure Isolation
    (sweep : Sweep)
    (runner : Runner σ)
    (answer : Invocation → Except OsError Outcome)
    (w : World σ) : Prop where
  completes :
    ∀ workers,
      0 < workers →
        ∃ schedule result final,
          (sweep.withWorkers workers).runScheduled? runner
              schedule w =
            some (result, final)
  schedules :
    ∀ result final,
      sweep.CanEnd runner w result final →
        sweep.EndsAlike (result, final) (sweep.run runner w)
  reports :
    ∀ (τ : Type) (runner' : Runner τ)
      (answer' : Invocation → Except OsError Outcome)
      (w' : World τ),
      runner'.Answers sweep answer' →
      runner'.Spares sweep →
        ∀ tuple ∈ sweep.grid.tuples,
          sweep.SameOutlook tuple answer answer' w.tree
            w'.tree →
          ∀ summary final summary' final',
            sweep.CanEnd runner w (.ok summary) final →
            sweep.CanEnd runner' w' (.ok summary') final' →
              ∃ report report',
                summary.reports[tuple.index]? =
                    some report ∧
                  summary'.reports[tuple.index]? =
                    some report' ∧
                  report.tuple = tuple ∧
                  report'.untimed = report.untimed

/-
  Unless it is to abort, a well-formed sweep isolates its
  tuples from each other if their directories are children
  of the output root that the runner neither creates nor
  removes.
-/
theorem isolation
    (hValid : sweep.IsValid)
    (hPolicy : sweep.onFailure ≠ .abort)
    (hChildren : sweep.HasDirectChildren)
    (hAnswers : runner.Answers sweep answer)
    (hSpares : runner.Spares sweep)
    (w : World σ) :
    sweep.Isolation runner answer w := by
  refine
    { completes := ?_, schedules := ?_, reports := ?_ }
  · intro workers hWorkers
    rcases @exists_schedule σ (sweep.withWorkers workers)
        runner hWorkers w with ⟨schedule, hRun⟩
    exact ⟨schedule, _, _, hRun⟩
  · intro result final hEnd
    exact
      hEnd.endsAlike hValid hPolicy hChildren hAnswers
        hSpares (canEnd_run hValid runner w)
  · intro τ runner' answer' w' hAnswers' hSpares' tuple
      hTuple hOutlook summary final summary' final' hEnd
      hEnd'
    rcases hEnd.exists_ready hValid with ⟨ready, hStart⟩
    rcases hEnd'.exists_ready hValid with ⟨ready', hStart'⟩
    have hForeseen :=
      hEnd.endsForeseen hValid hPolicy hChildren hAnswers
        hSpares hStart
    have hForeseen' :=
      hEnd'.endsForeseen hValid hPolicy hChildren hAnswers'
        hSpares' hStart'
    rcases hForeseen.exists_report hTuple with
      ⟨report, hReport, hUntimed⟩
    rcases hForeseen'.exists_report hTuple with
      ⟨report', hReport', hUntimed'⟩
    have hStanding :=
      standing_eq_of_start hValid hChildren hSpares hSpares'
        hTuple hOutlook.workDir hOutlook.occupant hStart
        hStart'
    have hProspect :
        sweep.prospect ready' tuple =
          sweep.prospect ready tuple :=
      prepare_congr hChildren hValid hTuple
        (hasRoot_of_start hSpares' hStart')
        (hasRoot_of_start hSpares hStart) hStanding
    have hForetold :
        sweep.foretold answer' (sweep.prospect ready' tuple)
            tuple =
          sweep.foretold answer (sweep.prospect ready tuple)
            tuple := by
      rw [hProspect]
      exact
        foretold_congr
          (fun _ hDir => eq_outputDir_of_prospect hDir)
          hOutlook.answers
    have hOwn : report.tuple = tuple := by
      have hSame := congrArg RunReport.tuple hUntimed
      rw [tuple_foretold] at hSame
      exact hSame
    exact
      ⟨report, report', hReport, hReport', hOwn,
        hUntimed'.trans (hForetold.trans hUntimed.symm)⟩

------------------------------------------------------------
-- Three Tuples, One of Which Fails
------------------------------------------------------------

/- The simulation of the second tuple fails. -/
def stumble : List Rule :=
  [ { needle := "--rate=2"
      ending := .exits (some 1) ⟨5⟩ } ]

/- The directory of the second tuple is taken. -/
def occupied : FileTree :=
  FileTree.empty.put ["work", "output_rate-2"] .directory

/- The answers of a script, up to times. -/
def scripted
    (rules : List Rule)
    (invocation : Invocation) : Except OsError Outcome :=
  untimedResult
    ((Script.runner rules).run invocation FileTree.empty
      ()).result

theorem answers_scripted
    (rules : List Rule)
    (sweep : Sweep) :
    (Script.runner rules).Answers sweep (scripted rules) :=
  fun _ _ _ _ => rfl

/- A script that writes no files spares all places. -/
theorem spares_of_files
    {rules : List Rule}
    (hFiles : ∀ rule ∈ rules, rule.files = [])
    (sweep : Sweep) :
    (Script.runner rules).Spares sweep := by
  intro invocation _ tree programs p _
  have hNone :
      ((Script.rule? rules invocation).map
        Rule.files).getD [] = [] := by
    cases hRule : Script.rule? rules invocation with
    | none => rfl
    | some rule =>
        exact hFiles rule (List.mem_of_find?_eq_some hRule)
  have hTree :
      ((Script.runner rules).run invocation tree
        programs).tree = tree :=
    congrArg
      (fun files =>
        Script.writeFiles invocation.logPath.parentDir files
          tree)
      hNone
  rw [hTree]

/- The directories of the three tuples are children. -/
theorem hasDirectChildren_trio :
    (trio .ignore).HasDirectChildren := by
  have hNames :
      ∀ tuple ∈ (trio .ignore).grid.tuples,
        ((trio .ignore).outputDir tuple).components =
          (trio .ignore).outputRoot.components ++
            [.name ((trio .ignore).directoryName tuple)] := by
    decide +kernel
  intro tuple hTuple
  exact ⟨_, hNames tuple hTuple⟩

/- The first tuple neither stumbles nor is in the way. -/
theorem sameOutlook_trio :
    ∃ tuple ∈ (trio .ignore).grid.tuples,
      tuple.index = 0 ∧
        (trio .ignore).SameOutlook tuple (scripted stumble)
          (scripted []) FileTree.empty occupied := by
  have hFirst :
      ∃ tuple ∈ (trio .ignore).grid.tuples,
        tuple.index = 0 ∧
          occupied.occupant
              ((trio .ignore).outputDir tuple) =
            FileTree.empty.occupant
              ((trio .ignore).outputDir tuple) ∧
          ∀ invocation ∈ (trio .ignore).invocationsOf tuple,
            scripted [] invocation =
              scripted stumble invocation := by
    decide +kernel
  rcases hFirst with
    ⟨tuple, hTuple, hIndex, hOccupant, hSame⟩
  exact
    ⟨tuple, hTuple, hIndex,
      { workDir := rfl
        occupant := hOccupant
        answers := hSame }⟩

theorem isolation_trio :
    ∃ summary final summary' final',
      (trio .ignore).CanEnd (Script.runner stumble)
          (World.start FileTree.empty ()) (.ok summary)
          final ∧
        (trio .ignore).EndsAlike (.ok summary, final)
          ((trio .ignore).run (Script.runner stumble)
            (World.start FileTree.empty ())) ∧
        (trio .ignore).CanEnd (Script.runner [])
          (World.start occupied ()) (.ok summary')
          final' ∧
        ∃ report report',
          summary.reports[0]? = some report ∧
            summary'.reports[0]? = some report' ∧
            report'.untimed = report.untimed := by
  have hValid : (trio .ignore).IsValid := by decide +kernel
  have hIsolation :=
    isolation hValid (by decide) hasDirectChildren_trio
      (answers_scripted stumble (trio .ignore))
      (spares_of_files (by decide) (trio .ignore))
      (World.start FileTree.empty ())
  have hOk :
      (((trio .ignore).runScheduled?
        (Script.runner stumble) crossing
        (World.start FileTree.empty ())).map
          fun r => r.1.isOk) = some true := by
    decide +kernel
  rcases exists_of_isOk hOk with ⟨summary, final, hRun⟩
  have hEnd :
      (trio .ignore).CanEnd (Script.runner stumble)
        (World.start FileTree.empty ()) (.ok summary)
        final :=
    ⟨2, crossing, by decide, hRun⟩
  have hEnd' :=
    canEnd_run hValid (Script.runner [])
      (World.start occupied ())
  have hOk' :
      ((trio .ignore).run (Script.runner [])
        (World.start occupied ())).1.isOk = true := by
    decide +kernel
  rcases hRun' :
      (trio .ignore).run (Script.runner [])
        (World.start occupied ()) with
    ⟨e | summary', final'⟩
  · rw [hRun'] at hOk'
    cases hOk'
  · rw [hRun'] at hEnd'
    rcases sameOutlook_trio with
      ⟨tuple, hTuple, hIndex, hOutlook⟩
    rcases hIsolation.reports Unit (Script.runner [])
        (scripted []) (World.start occupied ())
        (answers_scripted [] (trio .ignore))
        (spares_of_files (by decide) (trio .ignore)) tuple
        hTuple hOutlook summary final summary' final' hEnd
        hEnd' with
      ⟨report, report', hReport, hReport', _, hSame⟩
    rw [hIndex] at hReport hReport'
    exact
      ⟨summary, final, summary', final', hEnd,
        hIsolation.schedules _ _ hEnd, hEnd', report,
        report', hReport, hReport', hSame⟩

end Sweep

end LatencySweep
