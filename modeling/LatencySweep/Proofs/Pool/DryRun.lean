import LatencySweep.CommandLine.Sweep
import LatencySweep.Proofs.Pool.Abort
import LatencySweep.Proofs.Pool.Errands
import LatencySweep.Proofs.Sweep.OutputPaths
import Mathlib.Data.List.Nodup

/-
  A dry run shows what a sweep does.

  The dry run shows one call of the simulator for each tuple
  of the grid. Whatever the workers are timed by, the sweep
  makes these calls and no other ones of the simulator, each
  at most once, and leaves out those of tuples that are
  skipped or have no directory. Besides, programs are called
  for the build before all tuples, and for the analyses of a
  tuple that was simulated.

  Main declarations:
    * `Sweep.shown_dryRun`
    * `Sweep.IsValid.nodup_plannedInvocations`
    * `Sweep.invocations_start`
    * `Sweep.Shows`
    * `Sweep.DoesAsPlanned`
    * `Sweep.shows_and_does`
-/

namespace LatencySweep

variable {σ : Type}
variable {sweep : Sweep} {runner : Runner σ}

------------------------------------------------------------
-- Lines of a Dry Run
------------------------------------------------------------

/- Lines that are printed are events, and nothing else. -/
theorem World.printAll_eq
    (w : World σ)
    (lines : List String) :
    w.printAll lines =
      { w with events := w.events ++ lines.map .printed } := by
  unfold printAll
  induction lines generalizing w with
  | nil => simp
  | cons line lines ih =>
      rw [List.foldl_cons, ih]
      simp [print, record]

theorem World.invocations_printAll
    (w : World σ)
    (lines : List String) :
    (w.printAll lines).invocations = w.invocations := by
  have hNone :
      (lines.map Event.printed).filterMap
        Event.invocation? = [] := by
    rw [List.filterMap_map]
    exact List.filterMap_eq_nil_iff.mpr fun _ _ => rfl
  rw [printAll_eq, invocations, List.filterMap_append, hNone,
    List.append_nil]
  rfl

theorem World.printedLines_printAll
    (w : World σ)
    (lines : List String) :
    (w.printAll lines).printedLines =
      w.printedLines ++ lines := by
  have hLines :
      (lines.map Event.printed).filterMap
        Event.printedLine? = lines := by
    rw [List.filterMap_map]
    exact List.filterMap_some
  rw [printAll_eq, printedLines, List.filterMap_append, hLines]
  rfl

namespace Sweep

/- A line that shows a call is indented. -/
def isIndented (line : String) : Bool :=
  "    ".toList.isPrefixOf line.toList

/- The line that shows a call. -/
def shownCall (call : Invocation) : String :=
  "    " ++ call.toText

/- The lines on a tuple name its directory and show its
   call. -/
theorem indented_dryRunLines
    (sweep : Sweep)
    (tuple : Tuple) :
    (sweep.dryRunLines tuple).filter isIndented =
      [shownCall
        (sweep.simulatorInvocation tuple
          (sweep.outputDir tuple))] := by
  have hLines :
      sweep.dryRunLines tuple =
        [ "Output dir: " ++ sweep.directoryName tuple,
          shownCall
            (sweep.simulatorInvocation tuple
              (sweep.outputDir tuple)) ] := rfl
  have hName :
      isIndented ("Output dir: " ++ sweep.directoryName tuple) =
        false := by
    unfold isIndented
    rw [String.toList_append]
    rfl
  have hCall (call : Invocation) :
      isIndented (shownCall call) = true := by
    unfold isIndented shownCall
    rw [String.toList_append]
    rfl
  rw [hLines, List.filter_cons_of_neg (by simp [hName]),
    List.filter_cons_of_pos (hCall _), List.filter_nil]

/- The calls that a dry run shows are those that are planned,
   in the order of the grid. -/
theorem shown_dryRun (sweep : Sweep) :
    sweep.dryRun.filter isIndented =
      sweep.plannedInvocations.map shownCall := by
  have hTotal :
      isIndented
          s!"Total number of simulations: {sweep.grid.size}" =
        false := by
    unfold isIndented
    rw [String.toList_append]
    rfl
  unfold dryRun plannedInvocations
  rw [List.filter_cons_of_neg (by rw [hTotal]; decide),
    List.filter_flatMap, List.map_map]
  simp only [indented_dryRunLines]
  exact List.map_eq_flatMap.symm

------------------------------------------------------------
-- Planned Calls
------------------------------------------------------------

/- No call is planned twice: the simulator is told different
   directories. -/
theorem IsValid.nodup_plannedInvocations
    (hValid : sweep.IsValid) :
    sweep.plannedInvocations.Nodup := by
  unfold plannedInvocations
  apply List.Nodup.map_on _ sweep.grid.nodup_tuples
  intro a hA b hB hSame
  have hArgs :=
    congrArg (fun call => call.args.getLast?) hSame
  simp only [getLast?_args, Option.some.injEq,
    String.append_right_inj] at hArgs
  apply hValid.eq_of_steps_eq hA hB
  unfold Path.steps
  rw [hArgs]

------------------------------------------------------------
-- Calls before the First Tuple
------------------------------------------------------------

/- A simulator that has to be built is called once. -/
theorem invocations_build
    (sweep : Sweep)
    (runner : Runner σ)
    (w : World σ) :
    (sweep.build runner w).2.invocations =
      w.invocations ++
        if sweep.simulator.prebuild then
          [sweep.prebuildInvocation]
        else [] := by
  unfold build
  split
  next hPrebuild =>
    let told :=
      w.log .info
        s!"Building the simulator: {sweep.prebuildInvocation}"
    have hCall :
        (told.call runner sweep.prebuildInvocation).2.invocations =
          w.invocations ++ [sweep.prebuildInvocation] := by
      rw [World.invocations_call, World.invocations_log]
    dsimp only
    rcases hResult :
        told.call runner sweep.prebuildInvocation with
      ⟨cause | outcome, next⟩
    · rw [hResult] at hCall
      exact hCall
    · rw [hResult] at hCall
      dsimp only
      split
      · exact hCall
      · exact hCall
  next => exact (List.append_nil _).symm

/- Before the first tuple, the simulator is built once or not
   at all. -/
def IsBuild (sweep : Sweep) (calls : List Invocation) : Prop :=
  calls = [] ∨
    sweep.simulator.prebuild = true ∧
      calls = [sweep.prebuildInvocation] ∧
      sweep.prebuildInvocation.args = []

theorem invocations_start
    (sweep : Sweep)
    (runner : Runner σ)
    (w : World σ) :
    ∃ built,
      sweep.IsBuild built ∧
        (sweep.start runner w).2.invocations =
          w.invocations ++ built := by
  have hNone :
      ∃ built,
        sweep.IsBuild built ∧
          w.invocations = w.invocations ++ built :=
    ⟨[], Or.inl rfl, (List.append_nil _).symm⟩
  have hBuilds (tree : FileTree) :
      ∃ built,
        sweep.IsBuild built ∧
          (sweep.build runner { w with tree }).2.invocations =
            w.invocations ++ built := by
    refine ⟨_, ?_, sweep.invocations_build runner _⟩
    split
    next hPrebuild => exact Or.inr ⟨hPrebuild, rfl, rfl⟩
    next => exact Or.inl rfl
  unfold start createRoot
  split
  next => exact hNone
  next =>
    dsimp only
    rcases hCreate :
        w.tree.createDirectories sweep.outputRoot with
      ⟨cause | _, tree⟩
    · exact hNone
    · have hBuild := hBuilds tree
      dsimp only
      rcases hResult :
          sweep.build runner { w with tree } with
        ⟨e | _, next⟩
      · rw [hResult] at hBuild
        exact hBuild
      · rw [hResult] at hBuild
        dsimp only
        rw [World.invocations_log]
        exact hBuild

------------------------------------------------------------
-- Calls of a Sweep
------------------------------------------------------------

/- What the workers call programs for, in order. There are no
   workers unless the sweep starts. -/
def errands
    (sweep : Sweep)
    (runner : Runner σ)
    (schedule : List Move)
    (w : World σ) : List Errand :=
  match (sweep.start runner w).1 with
  | .error _ => []
  | .ok _ => errandsOf (sweep.deeds runner schedule w)

/- The tuples that are simulated, in order. -/
def simulated (errands : List Errand) : List Tuple :=
  errands.filterMap Errand.simulated?

/- The calls of the simulator, in order. -/
def simulations
    (sweep : Sweep)
    (errands : List Errand) : List Invocation :=
  (simulated errands).map fun tuple =>
    (Errand.simulation tuple).invocation sweep

/-
  What a dry run does: it prints, and it shows the call of
  the simulator for each tuple of the grid. No two of these
  are the same.
-/
structure Shows
    (sweep : Sweep)
    (runner : Runner σ) : Prop where
  prints :
    ∀ args o (w : World σ),
      SweepOptions.form.read args = .ok o →
        o.load w.tree = .ok sweep →
          o.printConfig = false →
            o.dryRun = true →
              ∃ next,
                sweepCommand runner args w = (.done, next) ∧
                  next.printedLines =
                    w.printedLines ++ sweep.dryRun ∧
                  next.invocations = w.invocations ∧
                  next.tree = w.tree
  shown :
    sweep.dryRun.filter isIndented =
      sweep.plannedInvocations.map shownCall
  once : sweep.plannedInvocations.Nodup

/-
  What a sweep does, given the errands of its workers. The
  calls of the simulator are among the planned ones, each at
  most once, and a tuple is simulated just when its report
  says neither that it was skipped nor that its directory
  could not be created.
-/
structure DoesAsPlanned
    (sweep : Sweep)
    (w final : World σ)
    (result : Except SweepError SweepSummary)
    (deeds : List (Deed σ))
    (errands : List Errand) : Prop where
  calls :
    ∃ built,
      sweep.IsBuild built ∧
        final.invocations =
          w.invocations ++
            (built ++ errands.map (Errand.invocation sweep))
  idle : ∀ e, result = .error e → errands = []
  planned :
    (sweep.simulations errands).Subperm
      sweep.plannedInvocations
  once : (sweep.simulations errands).Nodup
  reported :
    ∀ summary,
      result = .ok summary →
        ∀ tuple,
          tuple ∈ simulated errands ↔
            ∃ report ∈ summary.reports,
              report.tuple = tuple ∧
                report.directory = sweep.outputDir tuple ∧
                report.status ≠ .skipped ∧
                ∀ path cause,
                  report.simulator ≠
                    some (.error (.createDir path cause))
  complete :
    ∀ summary,
      result = .ok summary →
        sweep.onFailure ≠ .abort →
          (∀ deed ∈ deeds,
            ∀ tuple e, ¬ deed.Refuses sweep tuple e) →
            (sweep.simulations errands).Perm
              sweep.plannedInvocations
  analyses :
    ∀ before tuple step after,
      errands = before ++ .analysis tuple step :: after →
        .simulation tuple ∈ before ∧ step ∈ sweep.analyses

end Sweep

------------------------------------------------------------
-- Launched Runs
------------------------------------------------------------

/- The tuples simulated are those of the reports on launched
   runs. -/
theorem simulated_flatMap
    (sweep : Sweep)
    (reports : List RunReport) :
    Sweep.simulated
        (reports.flatMap (RunReport.errands sweep)) =
      (reports.filter RunReport.wasLaunched).map
        RunReport.tuple := by
  unfold Sweep.simulated
  induction reports with
  | nil => rfl
  | cons report reports ih =>
      rw [List.flatMap_cons, List.filterMap_append, ih,
        report.simulated_errands, List.filter_cons]
      cases report.wasLaunched <;> rfl

namespace Pool

variable {moves : List Move} {origin w : World σ}
variable {pool : Pool σ}
variable
  (hFollow :
    (start sweep w).follow? sweep runner moves = some pool)
  (hDone : pool.IsDone)
include hFollow hDone

theorem simulated_perm :
    (Sweep.simulated
      (errandsOf
        ((start sweep w).deeds sweep runner moves))).Perm
      ((pool.received.filter RunReport.wasLaunched).map
        RunReport.tuple) := by
  rw [← simulated_flatMap sweep]
  exact (errands_perm hFollow hDone).filterMap _

/- No tuple is simulated that is not in the grid, or more
   than once. -/
theorem simulated_subperm :
    (Sweep.simulated
      (errandsOf
        ((start sweep w).deeds sweep runner moves))).Subperm
      sweep.grid.tuples := by
  have hSome :
      ((pool.received.filter RunReport.wasLaunched).map
        RunReport.tuple).Subperm
        (pool.received.map RunReport.tuple) :=
    (List.filter_sublist.map _).subperm
  exact
    (simulated_perm hFollow hDone).subperm.trans
      (hSome.trans (received_perm_grid hFollow hDone).subperm)

/- A report on a tuple names its directory. -/
theorem directory_of_received
    {report : RunReport}
    (hReport : report ∈ pool.received) :
    report.directory = sweep.outputDir report.tuple := by
  have hAddressed :=
    follow?_forall_stages Advance.isAddressed hFollow
      (start_isAddressed w)
  rw [stages_of_isDone hDone] at hAddressed
  exact
    hAddressed (.reported report)
      (List.mem_map_of_mem hReport) report rfl

/- Where no directory is refused and the sweep is not to be
   aborted, all runs are launched. -/
theorem wasLaunched_of_received
    (hReady : origin.Adds w runner.Owns)
    (hPolicy : sweep.onFailure ≠ .abort)
    (hCreated :
      ∀ deed ∈ (start sweep w).deeds sweep runner moves,
        ∀ tuple e, ¬ deed.Refuses sweep tuple e)
    {report : RunReport}
    (hReport : report ∈ pool.received) :
    report.wasLaunched = true := by
  have hWatched := isWatched_of_follow hReady hFollow
  refine RunReport.wasLaunched_iff.mpr ⟨?_, ?_⟩
  · intro hSkipped
    rcases exists_aborting_of_skipped hWatched hDone
        (List.Perm.refl _) hReport hSkipped with
      ⟨other, -, hAborting⟩
    exact hPolicy (Sweep.isAborting_iff.mp hAborting).1
  · intro path cause hFailed
    have hAccounts :=
      accounts_of_received hFollow hDone hReport
    rcases hAccounts.refusal path cause hFailed with
      ⟨deed, hDeed, e, hRefuses⟩
    exact
      hCreated deed (mem_deedsOn_iff.mp hDeed).1 _ e hRefuses

/- So all tuples of the grid are simulated. -/
theorem simulated_perm_grid
    (hReady : origin.Adds w runner.Owns)
    (hPolicy : sweep.onFailure ≠ .abort)
    (hCreated :
      ∀ deed ∈ (start sweep w).deeds sweep runner moves,
        ∀ tuple e, ¬ deed.Refuses sweep tuple e) :
    (Sweep.simulated
      (errandsOf
        ((start sweep w).deeds sweep runner moves))).Perm
      sweep.grid.tuples := by
  have hAll :
      pool.received.filter RunReport.wasLaunched =
        pool.received :=
    List.filter_eq_self.mpr fun report hReport =>
      wasLaunched_of_received hFollow hDone hReady hPolicy
        hCreated hReport
  have hPerm := simulated_perm hFollow hDone
  rw [hAll] at hPerm
  exact hPerm.trans (received_perm_grid hFollow hDone)

end Pool

------------------------------------------------------------
-- Dry Runs and Sweeps
------------------------------------------------------------

namespace Sweep

theorem shows
    (hValid : sweep.IsValid)
    (runner : Runner σ) :
    sweep.Shows runner where
  prints := by
    intro args o w hRead hLoad hPlain hDry
    refine
      ⟨w.printAll sweep.dryRun, ?_,
        w.printedLines_printAll _, w.invocations_printAll _,
        ?_⟩
    · unfold sweepCommand CommandForm.perform
      rw [hRead]
      dsimp only
      unfold SweepOptions.perform
      rw [hLoad]
      dsimp only
      rw [hPlain, hDry]
      rfl
    · rw [World.printAll_eq]
  shown := sweep.shown_dryRun
  once := hValid.nodup_plannedInvocations

/- A sweep that does not start calls at most the build. -/
theorem doesAsPlanned_of_error
    {w final : World σ}
    {e : SweepError}
    (deeds : List (Deed σ))
    (hStart : sweep.start runner w = (.error e, final)) :
    sweep.DoesAsPlanned w final (.error e) deeds [] := by
  rcases sweep.invocations_start runner w with
    ⟨built, hBuild, hCalls⟩
  rw [hStart] at hCalls
  exact
    { calls := ⟨built, hBuild, by simpa using hCalls⟩
      idle := fun _ _ => rfl
      planned := List.nil_subperm
      once := List.nodup_nil
      reported := nofun
      complete := nofun
      analyses := by
        intro before tuple step after hSplit
        cases before <;> cases hSplit }

/- A sweep that returns a summary calls what is planned. -/
theorem doesAsPlanned_of_follow
    (hValid : sweep.IsValid)
    {schedule : List Move}
    {w ready : World σ}
    {pool : Pool σ}
    {summary : SweepSummary}
    (hStart : sweep.start runner w = (.ok (), ready))
    (hFollow :
      (Pool.start sweep ready).follow? sweep runner schedule =
        some pool)
    (hDone : pool.IsDone)
    (hReports : summary.reports.Perm pool.received) :
    sweep.DoesAsPlanned w
      (pool.world.log .info summary.toText) (.ok summary)
      ((Pool.start sweep ready).deeds sweep runner schedule)
      (errandsOf
        ((Pool.start sweep ready).deeds sweep runner
          schedule)) := by
  rcases Pool.simulated_subperm hFollow hDone with
    ⟨tuples, hTuples, hGrid⟩
  let call (tuple : Tuple) :=
    (Errand.simulation tuple).invocation sweep
  have hCalls := hTuples.map call
  have hPlanned := hGrid.map call
  constructor
  case calls =>
    rcases sweep.invocations_start runner w with
      ⟨built, hBuild, hReady⟩
    rw [hStart] at hReady
    refine ⟨built, hBuild, ?_⟩
    rw [World.invocations_log,
      Pool.invocations_of_follow hFollow, hReady,
      List.append_assoc]
  case idle => exact nofun
  case planned => exact ⟨_, hCalls, hPlanned⟩
  case once =>
    exact
      hCalls.nodup_iff.mp
        (hValid.nodup_plannedInvocations.sublist hPlanned)
  case reported =>
    intro summary' hSame tuple
    cases hSame
    rw [(Pool.simulated_perm hFollow hDone).mem_iff,
      List.mem_map]
    constructor
    · rintro ⟨report, hMem, rfl⟩
      rcases List.mem_filter.mp hMem with
        ⟨hReceived, hLaunched⟩
      exact
        ⟨report, hReports.symm.subset hReceived, rfl,
          Pool.directory_of_received hFollow hDone hReceived,
          RunReport.wasLaunched_iff.mp hLaunched⟩
    · rintro ⟨report, hMem, hTuple, -, hLaunched⟩
      exact
        ⟨report,
          List.mem_filter.mpr
            ⟨hReports.subset hMem,
              RunReport.wasLaunched_iff.mpr hLaunched⟩,
          hTuple⟩
  case complete =>
    intro _ _ hPolicy hCreated
    exact
      (Pool.simulated_perm_grid hFollow hDone
        (World.adds_start runner hStart) hPolicy hCreated).map _
  case analyses =>
    intro before tuple step after hSplit
    exact
      Pool.simulation_mem_of_split hFollow hDone hSplit

/-
  However the workers are timed, a valid sweep does what its
  dry run shows.
-/
theorem shows_and_does
    (hValid : sweep.IsValid)
    {schedule : List Move}
    {w final : World σ}
    {result : Except SweepError SweepSummary}
    (hRun :
      sweep.runScheduled? runner schedule w =
        some (result, final)) :
    sweep.Shows runner ∧
      sweep.DoesAsPlanned w final result
        (sweep.deeds runner schedule w)
        (sweep.errands runner schedule w) := by
  refine ⟨shows hValid runner, ?_⟩
  unfold errands
  cases result with
  | error e =>
      have hStart : sweep.start runner w = (.error e, final) :=
        runScheduled?_eq_error_iff.mp hRun
      rw [hStart]
      exact doesAsPlanned_of_error _ hStart
  | ok summary =>
      rcases runScheduled?_eq_ok hRun with
        ⟨ready, pool, hStart, hFollow, hDone, hReports, rfl⟩
      unfold deeds
      rw [hStart]
      apply doesAsPlanned_of_follow hValid hStart hFollow hDone
      rw [hReports]
      exact inGridOrder_perm pool.received

/- Three tuples for two workers, with a simulator that has to
   be built. -/
def builtTrio : Sweep :=
  { trio .ignore with
    simulator :=
      { (trio .ignore).simulator with prebuild := true } }

theorem shows_and_does_crossing :
    ∃ result final,
      builtTrio.IsValid ∧
        builtTrio.runScheduled? (Script.runner []) crossing
            (.start FileTree.empty ()) =
          some (result, final) ∧
        builtTrio.Shows (Script.runner []) ∧
        builtTrio.DoesAsPlanned (.start FileTree.empty ())
          final result
          (builtTrio.deeds (Script.runner []) crossing
            (.start FileTree.empty ()))
          (builtTrio.errands (Script.runner []) crossing
            (.start FileTree.empty ())) ∧
        (simulated
          (builtTrio.errands (Script.runner []) crossing
            (.start FileTree.empty ()))).map
            Tuple.index = [1, 0, 2] := by
  have hValid : builtTrio.IsValid := by decide +kernel
  have hOk :
      ((builtTrio.runScheduled? (Script.runner []) crossing
        (.start FileTree.empty ())).map
          fun r => r.1.isOk) = some true := by
    decide +kernel
  have hOrder :
      (simulated
        (builtTrio.errands (Script.runner []) crossing
          (.start FileTree.empty ()))).map
          Tuple.index = [1, 0, 2] := by
    decide +kernel
  rcases exists_of_isOk hOk with ⟨summary, final, hRun⟩
  rcases shows_and_does hValid hRun with ⟨hShows, hDoes⟩
  exact
    ⟨.ok summary, final, hValid, hRun, hShows, hDoes, hOrder⟩

end Sweep

end LatencySweep
