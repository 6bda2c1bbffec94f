import LatencySweep.Proofs.Isolation.Forecast
import LatencySweep.Proofs.Pool.Fate
import LatencySweep.Proofs.Summary.Status
import Mathlib.Data.List.Perm.Basic

/-
  What programs are called for.

  A program is called to simulate a tuple or to analyze it.
  The report on a tuple tells which of these errands were
  run for it, and in which order: that is kept by every
  advance of the tuple. All errands of a sweep are those of
  its reports, and their calls are all calls of the workers.

  Main declarations:
    * `Errand`
    * `RunReport.errands`
    * `Life.accounts`
    * `Pool.errands_perm`
    * `Pool.simulation_mem_of_split`
    * `Pool.invocations_of_follow`
-/

namespace LatencySweep

variable {σ : Type}
variable {sweep : Sweep} {runner : Runner σ}

------------------------------------------------------------
-- Errands
------------------------------------------------------------

/- What a program is called for. -/
inductive Errand where
  | simulation (tuple : Tuple)
  | analysis (tuple : Tuple) (step : AnalysisStep)
  deriving DecidableEq

namespace Errand

/- The tuple that a program is called for. -/
def tuple : Errand → Tuple
  | simulation tuple => tuple
  | analysis tuple _ => tuple

/- The tuple that is simulated. -/
def simulated? : Errand → Option Tuple
  | simulation tuple => some tuple
  | analysis _ _ => none

/- The call that runs the errand. -/
def invocation (sweep : Sweep) : Errand → Invocation
  | simulation tuple =>
      sweep.simulatorInvocation tuple (sweep.outputDir tuple)
  | analysis tuple step =>
      step.invocation (sweep.outputDir tuple)

end Errand

/- The errand that a worker is about to run. -/
def Worker.errand? : Worker → Option Errand
  | simulating tuple _ => some (.simulation tuple)
  | analyzing tuple _ _ (step :: _) =>
      some (.analysis tuple step)
  | _ => none

theorem Worker.tuple?_of_errand?
    {worker : Worker}
    {errand : Errand}
    (hErrand : worker.errand? = some errand) :
    worker.tuple? = some errand.tuple := by
  cases worker with
  | simulating =>
      cases hErrand
      rfl
  | analyzing tuple outcome finished steps =>
      cases steps with
      | nil => cases hErrand
      | cons =>
          cases hErrand
          rfl
  | idle | checking | preparing | judging | sending =>
      cases hErrand

/- The errands that were run by the moves. -/
def errandsOf (past : List (Deed σ)) : List Errand :=
  past.filterMap fun deed => deed.worker.errand?

/- A move runs the errand that the worker was about to
   run. -/
theorem errandsOf_append_ofStage
    (past : List (Deed σ))
    (worker : Worker)
    (w next : World σ) :
    errandsOf (past ++ Deed.ofStage (.held worker) w next) =
      errandsOf past ++ worker.errand?.toList := by
  unfold errandsOf
  rw [List.filterMap_append]
  cases hErrand : worker.errand? <;>
    simp [Deed.ofStage, Stage.worker?, hErrand]

/- The errands for a tuple are run by the moves on it. -/
theorem errandsOf_deedsOn
    (tuple : Tuple)
    (past : List (Deed σ)) :
    errandsOf (deedsOn tuple past) =
      (errandsOf past).filter (·.tuple = tuple) := by
  unfold errandsOf deedsOn
  rw [List.filterMap_filter, List.filter_filterMap]
  apply List.filterMap_congr
  intro deed _
  cases hErrand : deed.worker.errand? with
  | none => simp
  | some errand =>
      rw [Worker.tuple?_of_errand? hErrand]
      simp [Option.filter]

------------------------------------------------------------
-- Errands of a Report
------------------------------------------------------------

/-
  The errands that a report tells of. There are none if the
  tuple was skipped or has no directory; otherwise, it was
  simulated first and analyzed as its outcome demands.
-/
def RunReport.errands
    (sweep : Sweep)
    (report : RunReport) : List Errand :=
  match report.simulator with
  | none | some (.error (.createDir _ _)) => []
  | some (.error (.launch _ _)) => [.simulation report.tuple]
  | some (.ok outcome) =>
      .simulation report.tuple ::
        (sweep.stepsAfter outcome).map (.analysis report.tuple)

/- The report tells of the errands that were run, and if it
   says that there is no directory, one was refused. -/
structure RunReport.Accounts
    (sweep : Sweep)
    (own : List (Deed σ))
    (report : RunReport) : Prop where
  errands : errandsOf own = report.errands sweep
  refusal :
    ∀ path cause,
      report.simulator =
          some (.error (.createDir path cause)) →
        ∃ deed ∈ own, ∃ e,
          deed.Refuses sweep report.tuple e

/- The errands of a tuple fit the stage to which it has
   come. -/
def Stage.Accounts
    (sweep : Sweep)
    (own : List (Deed σ)) : Stage → Prop
  | .waiting _
  | .held (.checking _)
  | .held (.preparing _) => errandsOf own = []
  | .held (.simulating tuple dir) =>
      errandsOf own = [] ∧ dir = sweep.outputDir tuple
  | .held (.analyzing tuple outcome _ steps) =>
      errandsOf own ++ steps.map (.analysis tuple) =
        .simulation tuple ::
          (sweep.stepsAfter outcome).map (.analysis tuple)
  | .held (.judging report)
  | .held (.sending report)
  | .reported report => report.Accounts sweep own
  | .held .idle => True

/- A move that runs no errand changes no account. -/
theorem RunReport.Accounts.append
    {own : List (Deed σ)}
    {report : RunReport}
    {worker : Worker}
    {w next : World σ}
    (hAccounts : report.Accounts sweep own)
    (hNone : worker.errand? = none) :
    report.Accounts sweep
      (own ++ Deed.ofStage (.held worker) w next) where
  errands := by
    rw [errandsOf_append_ofStage, hAccounts.errands, hNone,
      Option.toList_none, List.append_nil]
  refusal := by
    intro path cause hSimulator
    rcases hAccounts.refusal path cause hSimulator with
      ⟨refusal, hMem, hRefuses⟩
    exact
      ⟨refusal, List.mem_append_left _ hMem, hRefuses⟩

/- A simulation that gives no outcome was not launched. -/
theorem Sweep.simulate_eq_error
    {tuple : Tuple}
    {dir : Path}
    {e : DispatchError}
    {w next : World σ}
    (hSimulate :
      sweep.simulate runner tuple dir w = (.error e, next)) :
    ∃ cause, e = .launch sweep.simulator.runner cause := by
  have hResult :=
    launch_fst runner (sweep.simulatorInvocation tuple dir) w
  rw [← simulate, hSimulate] at hResult
  cases hAnswer :
      (w.answer runner
        (sweep.simulatorInvocation tuple dir)).result with
  | error cause =>
      rw [hAnswer] at hResult
      cases hResult
      exact ⟨cause, rfl⟩
  | ok outcome =>
      rw [hAnswer] at hResult
      cases hResult

/- An advance of the tuple keeps its account. -/
theorem Advance.accounts
    {own : List (Deed σ)}
    {before after : Stage}
    {flag flag' : Bool}
    {w w' : World σ}
    (hAdvance :
      Advance sweep runner before flag w after flag' w')
    (hBefore : before.Accounts sweep own) :
    after.Accounts sweep
      (own ++ Deed.ofStage before w w') := by
  cases hAdvance with
  | take | receive =>
      rw [Deed.append_ofStage own w w rfl]
      exact hBefore
  | proceed =>
      have hNone : errandsOf own = [] := hBefore
      change errandsOf _ = []
      rw [errandsOf_append_ofStage, hNone]
      rfl
  | skip =>
      have hNone : errandsOf own = [] := hBefore
      refine { errands := ?_, refusal := nofun }
      rw [errandsOf_append_ofStage, hNone]
      rfl
  | prepare hPrepare =>
      have hNone : errandsOf own = [] := hBefore
      refine ⟨?_, ?_⟩
      · rw [errandsOf_append_ofStage, hNone]
        rfl
      · exact
          Sweep.eq_outputDir_of_prospect
            (Sweep.prospect_of_prepare hPrepare)
  | @refuse tuple e _ _ _ hPrepare =>
      have hNone : errandsOf own = [] := hBefore
      rcases Sweep.prepare_eq_error hPrepare with
        ⟨-, cause, rfl⟩
      refine { errands := ?_, refusal := ?_ }
      · rw [errandsOf_append_ofStage, hNone]
        rfl
      · intro path cause _
        exact
          ⟨_, List.mem_append_right _ List.mem_cons_self, _,
            { worker := rfl
              failed := congrArg Prod.fst hPrepare }⟩
  | simulate hSimulate =>
      change errandsOf _ ++ _ = _
      rw [errandsOf_append_ofStage, hBefore.1]
      rfl
  | misfire hSimulate =>
      rcases Sweep.simulate_eq_error hSimulate with
        ⟨cause, rfl⟩
      refine { errands := ?_, refusal := nofun }
      rw [errandsOf_append_ofStage, hBefore.1]
      rfl
  | analyze hRun =>
      change errandsOf _ ++ _ = _
      rw [errandsOf_append_ofStage, List.append_assoc]
      exact hBefore
  | conclude =>
      refine { errands := ?_, refusal := nofun }
      rw [errandsOf_append_ofStage]
      exact hBefore
  | alarm | judge | send => exact hBefore.append rfl

/- So the whole life of a tuple is accounted for. -/
theorem Life.accounts
    {tuple : Tuple}
    {own : List (Deed σ)}
    {stage : Stage}
    (hLife : Life sweep runner tuple own stage) :
    stage.Accounts sweep own := by
  induction hLife with
  | waiting => rfl
  | advance _ hAdvance ih => exact hAdvance.accounts ih

------------------------------------------------------------
-- What a Report Tells
------------------------------------------------------------

namespace RunReport

/- The simulator was called: the run was not skipped, and
   its directory could be created. -/
def wasLaunched (report : RunReport) : Bool :=
  match report.simulator with
  | none | some (.error (.createDir _ _)) => false
  | some _ => true

theorem wasLaunched_iff {report : RunReport} :
    report.wasLaunched = true ↔
      report.status ≠ .skipped ∧
        ∀ path cause,
          report.simulator ≠
            some (.error (.createDir path cause)) := by
  rw [Ne, status_eq_skipped_iff]
  unfold wasLaunched
  cases report.simulator with
  | none => simp
  | some result =>
      cases result with
      | error e => cases e <;> simp
      | ok outcome => simp

/- There are no errands, or the simulation comes first and
   analyses of the sweep follow. -/
theorem errands_cases
    (sweep : Sweep)
    (report : RunReport) :
    (report.wasLaunched = false ∧ report.errands sweep = []) ∨
      ∃ steps,
        report.wasLaunched = true ∧
          steps ⊆ sweep.analyses ∧
          report.errands sweep =
            .simulation report.tuple ::
              steps.map (.analysis report.tuple) := by
  unfold wasLaunched errands
  cases report.simulator with
  | none => exact Or.inl ⟨rfl, rfl⟩
  | some result =>
      cases result with
      | error e =>
          cases e with
          | createDir => exact Or.inl ⟨rfl, rfl⟩
          | launch =>
              exact Or.inr ⟨[], rfl, List.nil_subset _, rfl⟩
      | ok outcome =>
          exact
            Or.inr
              ⟨_, rfl, sweep.stepsAfter_subset outcome, rfl⟩

/- A report on a launched run tells of one simulation. -/
theorem simulated_errands
    (sweep : Sweep)
    (report : RunReport) :
    (report.errands sweep).filterMap Errand.simulated? =
      if report.wasLaunched then [report.tuple] else [] := by
  have hAnalyses (steps : List AnalysisStep) :
      (steps.map (Errand.analysis report.tuple)).filterMap
        Errand.simulated? = [] := by
    rw [List.filterMap_map]
    exact List.filterMap_eq_nil_iff.mpr fun _ _ => rfl
  rcases report.errands_cases sweep with
    ⟨hLaunched, hErrands⟩ | ⟨steps, hLaunched, -, hErrands⟩
  · rw [hErrands, hLaunched]
    rfl
  · rw [hErrands, hLaunched, List.filterMap_cons, hAnalyses]
    rfl

/- An analysis is one of the sweep and comes behind the
   simulation. -/
theorem simulation_mem_of_split
    {report : RunReport}
    {tuple : Tuple}
    {step : AnalysisStep}
    {before after : List Errand}
    (hSplit :
      report.errands sweep =
        before ++ .analysis tuple step :: after) :
    .simulation report.tuple ∈ before ∧
      step ∈ sweep.analyses := by
  rcases report.errands_cases sweep with
    ⟨-, hErrands⟩ | ⟨steps, -, hKnown, hErrands⟩
  · rw [hErrands] at hSplit
    cases before <;> cases hSplit
  · rw [hErrands] at hSplit
    cases before with
    | nil => cases hSplit
    | cons first before =>
        rw [List.cons_append, List.cons.injEq] at hSplit
        rcases hSplit with ⟨rfl, hRest⟩
        refine ⟨List.mem_cons_self, hKnown ?_⟩
        have hMem :
            Errand.analysis tuple step ∈
              steps.map (.analysis report.tuple) := by
          rw [hRest]
          exact
            List.mem_append_right _ List.mem_cons_self
        rcases List.mem_map.mp hMem with ⟨other, hOther, hSame⟩
        cases hSame
        exact hOther

end RunReport

------------------------------------------------------------
-- All Errands
------------------------------------------------------------

/- A list is made of the parts that belong to each key. -/
theorem perm_flatMap_filter
    {α κ : Type}
    [DecidableEq κ]
    {key : α → κ}
    {keys : List κ}
    {values : List α}
    (hNodup : keys.Nodup)
    (hKnown : ∀ value ∈ values, key value ∈ keys) :
    values.Perm
      (keys.flatMap fun k => values.filter (key · = k)) := by
  induction keys generalizing values with
  | nil =>
      have hNone : values = [] :=
        List.eq_nil_iff_forall_not_mem.mpr fun value hMem =>
          List.not_mem_nil (hKnown value hMem)
      rw [hNone]
      rfl
  | cons k keys ih =>
      rcases List.nodup_cons.mp hNodup with ⟨hFirst, hRest⟩
      let others := values.filter fun value => !(key value = k)
      have hOthers : ∀ value ∈ others, key value ∈ keys := by
        intro value hMem
        rcases List.mem_filter.mp hMem with ⟨hValue, hOther⟩
        rcases List.mem_cons.mp (hKnown value hValue) with
          hSame | hLater
        · simp [hSame] at hOther
        · exact hLater
      have hParts :
          keys.flatMap (fun k => others.filter (key · = k)) =
            keys.flatMap (fun k => values.filter (key · = k)) := by
        apply List.flatMap_congr
        intro other hMem
        have hNe : other ≠ k := by
          rintro rfl
          exact hFirst hMem
        rw [List.filter_filter]
        apply List.filter_congr
        intro value _
        by_cases hSame : key value = other
        · simp [hSame, hNe]
        · simp [hSame]
      rw [List.flatMap_cons, ← hParts]
      exact
        (List.filter_append_perm _ values).symm.trans
          ((ih hRest hOthers).append_left _)

namespace Pool

variable {moves : List Move} {w : World σ} {pool : Pool σ}
variable
  (hFollow :
    (start sweep w).follow? sweep runner moves = some pool)
include hFollow

/- In the end, a report tells of the errands that were run
   for its tuple. -/
theorem accounts_of_received
    (hDone : pool.IsDone)
    {report : RunReport}
    (hReport : report ∈ pool.received) :
    report.Accounts sweep
      (deedsOn report.tuple
        ((start sweep w).deeds sweep runner moves)) :=
  (life_of_received hFollow hDone hReport).accounts

theorem exists_received_of_errand
    (hDone : pool.IsDone)
    {errand : Errand}
    (hErrand :
      errand ∈
        errandsOf ((start sweep w).deeds sweep runner moves)) :
    ∃ report ∈ pool.received, report.tuple = errand.tuple := by
  rcases List.mem_filterMap.mp hErrand with
    ⟨deed, hDeed, hRuns⟩
  exact
    exists_received_of_deed hFollow hDone hDeed
      (Worker.tuple?_of_errand? hRuns)

/- All errands are those of the reports. -/
theorem errands_perm (hDone : pool.IsDone) :
    (errandsOf ((start sweep w).deeds sweep runner moves)).Perm
      (pool.received.flatMap (RunReport.errands sweep)) := by
  have hNodup :
      (pool.received.map RunReport.tuple).Nodup :=
    (received_perm_grid hFollow hDone).nodup_iff.mpr
      sweep.grid.nodup_tuples
  have hKnown :
      ∀ errand ∈
          errandsOf ((start sweep w).deeds sweep runner moves),
        errand.tuple ∈ pool.received.map RunReport.tuple := by
    intro errand hErrand
    rcases exists_received_of_errand hFollow hDone hErrand
      with ⟨report, hReport, hTuple⟩
    rw [← hTuple]
    exact List.mem_map_of_mem hReport
  refine (perm_flatMap_filter hNodup hKnown).trans ?_
  rw [List.flatMap_map]
  apply List.Perm.of_eq
  apply List.flatMap_congr
  intro report hReport
  rw [← errandsOf_deedsOn]
  exact (accounts_of_received hFollow hDone hReport).errands

/- A tuple is simulated before it is analyzed. -/
theorem simulation_mem_of_split
    (hDone : pool.IsDone)
    {tuple : Tuple}
    {step : AnalysisStep}
    {before after : List Errand}
    (hSplit :
      errandsOf ((start sweep w).deeds sweep runner moves) =
        before ++ .analysis tuple step :: after) :
    .simulation tuple ∈ before ∧ step ∈ sweep.analyses := by
  have hErrand :
      Errand.analysis tuple step ∈
        errandsOf
          ((start sweep w).deeds sweep runner moves) := by
    rw [hSplit]
    exact List.mem_append_right _ List.mem_cons_self
  rcases exists_received_of_errand hFollow hDone hErrand with
    ⟨report, hReport, hTuple⟩
  have hOwn :=
    (accounts_of_received hFollow hDone hReport).errands
  rw [errandsOf_deedsOn, hSplit, List.filter_append,
    List.filter_cons_of_pos (by simp [hTuple])] at hOwn
  rcases RunReport.simulation_mem_of_split hOwn.symm with
    ⟨hSimulation, hStep⟩
  rw [hTuple] at hSimulation
  exact ⟨(List.mem_filter.mp hSimulation).1, hStep⟩

/- The simulator is called in the directory of its tuple. -/
theorem call?_eq_of_deed
    {deed : Deed σ}
    (hDeed :
      deed ∈ (start sweep w).deeds sweep runner moves) :
    deed.worker.call? sweep =
      deed.worker.errand?.map (Errand.invocation sweep) := by
  cases hWorker : deed.worker with
  | simulating tuple dir =>
      have hTuple : deed.worker.tuple? = some tuple := by
        rw [hWorker]
        rfl
      rcases life_of_deed hFollow hDeed hTuple with
        ⟨stage, -, hLife⟩
      rcases hLife.exists_of_mem
          (mem_deedsOn_iff.mpr ⟨hDeed, hTuple⟩) with
        ⟨past, hPast, -⟩
      have hAccounts := hPast.accounts
      rw [hWorker] at hAccounts
      rw [hAccounts.2]
      rfl
  | analyzing tuple outcome finished steps =>
      cases steps <;> rfl
  | idle | checking | preparing | judging | sending => rfl

/- The workers call what their errands need, in order. -/
theorem invocations_of_follow :
    pool.world.invocations =
      w.invocations ++
        (errandsOf
          ((start sweep w).deeds sweep runner moves)).map
          (Errand.invocation sweep) := by
  have hCalls :
      ∀ deed ∈ (start sweep w).deeds sweep runner moves,
        deed.invocations =
          (deed.worker.errand?.map
            (Errand.invocation sweep)).toList := by
    intro deed hDeed
    rw [invocations_of_deed hFollow deed hDeed,
      call?_eq_of_deed hFollow hDeed]
  unfold World.invocations
  rw [events_of_deeds hFollow, List.filterMap_append,
    List.filterMap_flatMap]
  congr 1
  unfold errandsOf
  rw [List.map_filterMap, List.filterMap_eq_flatMap_toList]
  exact List.flatMap_congr hCalls

end Pool

end LatencySweep
