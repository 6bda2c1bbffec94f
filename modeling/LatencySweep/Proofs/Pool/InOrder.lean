import LatencySweep.Proofs.Grid.Tuples
import LatencySweep.Proofs.Pool.Stages

/-
  Handling the tuples one by one is one of the schedules.

  The first worker takes the next tuple, goes on with it to
  the end, and has its report received before it takes
  another one. All other workers stay idle. The tuples are
  taken in the order of the grid.

  Main declarations:
    * `Move.IsInOrder`
    * `Pool.Leads`
    * `Pool.solo`
    * `Pool.leads_tuples`
    * `Sweep.exists_schedule_inOrder`
    * `Sweep.exists_schedule`
-/

namespace LatencySweep

variable {σ : Type}

/- No tuple is taken before those that wait in front of
   it. -/
def Move.IsInOrder : Move → Prop
  | .take _ position => position = 0
  | .advance _ => True
  | .receive => True

instance (move : Move) : Decidable move.IsInOrder := by
  unfold Move.IsInOrder
  split <;> infer_instance

namespace Pool

------------------------------------------------------------
-- Moves in a Row
------------------------------------------------------------

/- Some moves, by which tuples are taken in order, lead from
   one pool to another. -/
def Leads
    (sweep : Sweep)
    (runner : Runner σ)
    (pool next : Pool σ) : Prop :=
  ∃ moves,
    (∀ move ∈ moves, move.IsInOrder) ∧
      pool.follow? sweep runner moves = some next

variable {sweep : Sweep} {runner : Runner σ}
variable {pool middle next : Pool σ}

theorem leads_refl (pool : Pool σ) :
    Leads sweep runner pool pool :=
  ⟨[], nofun, rfl⟩

theorem Leads.trans
    (hFirst : Leads sweep runner pool middle)
    (hSecond : Leads sweep runner middle next) :
    Leads sweep runner pool next := by
  rcases hFirst with ⟨first, hInOrder, hFirst⟩
  rcases hSecond with ⟨second, hAlsoInOrder, hSecond⟩
  refine
    ⟨first ++ second,
      List.forall_mem_append.mpr ⟨hInOrder, hAlsoInOrder⟩, ?_⟩
  rw [follow?_append, hFirst]
  exact hSecond

theorem leads_of_step
    (move : Move)
    (hInOrder : move.IsInOrder)
    (hStep : pool.step? sweep runner move = some next) :
    Leads sweep runner pool next := by
  refine ⟨[move], List.forall_mem_singleton.mpr hInOrder, ?_⟩
  simp only [follow?, hStep]

------------------------------------------------------------
-- One Worker Alone
------------------------------------------------------------

/- The first worker works while the others are idle. All
   reports have been received. -/
def solo
    (others : Nat)
    (worker : Worker)
    (waiting : List Tuple)
    (flag : Bool)
    (received : List RunReport)
    (w : World σ) : Pool σ :=
  { waiting
    workers := worker :: List.replicate others .idle
    aborted := flag
    sent := []
    received
    world := w }

section Steps

variable {others : Nat}
variable {waiting : List Tuple}
variable {flag : Bool}
variable {received : List RunReport}
variable {w : World σ}

theorem leads_take (tuple : Tuple) :
    Leads sweep runner
      (solo others .idle (tuple :: waiting) flag received w)
      (solo others (.checking tuple) waiting flag received
        w) :=
  leads_of_step (.take 0 0) rfl rfl

theorem leads_skip (tuple : Tuple) :
    Leads sweep runner
      (solo others (.checking tuple) waiting true received w)
      (solo others (.judging (sweep.skippedReport tuple))
        waiting true received w) :=
  leads_of_step (.advance 0) trivial rfl

theorem leads_proceed (tuple : Tuple) :
    Leads sweep runner
      (solo others (.checking tuple) waiting false received
        w)
      (solo others (.preparing tuple) waiting false received
        w) :=
  leads_of_step (.advance 0) trivial rfl

/- What a worker does with its tuple is one move. -/
theorem leads_work
    {worker after : Worker}
    {w' : World σ}
    (hWork : sweep.work runner worker w = (after, w'))
    (hAtWork : worker.IsAtWork) :
    Leads sweep runner
      (solo others worker waiting flag received w)
      (solo others after waiting flag received w') := by
  apply leads_of_step (.advance 0) trivial
  have hAdvance :
      (solo others worker waiting flag received
          w).advance? sweep runner 0 =
        some
          { (solo others worker waiting flag received
              w).withWorker 0
              (sweep.work runner worker w).1 with
            world := (sweep.work runner worker w).2 } := by
    cases worker with
    | idle | checking | judging | sending => cases hAtWork
    | preparing | simulating | analyzing => rfl
  rw [step?, hAdvance, hWork]
  rfl

/- A judged report is sent and received. -/
theorem leads_send (report : RunReport) :
    Leads sweep runner
      (solo others (.sending report) waiting flag received
        w)
      (solo others .idle waiting flag
        (received ++ [report]) w) :=
  (leads_of_step (.advance 0) trivial rfl).trans
    (leads_of_step .receive trivial rfl)

/- A report that calls for an abort raises the flag. -/
theorem leads_judge (report : RunReport) :
    Leads sweep runner
      (solo others (.judging report) waiting false received
        w)
      (solo others .idle waiting (sweep.isAborting report)
        (received ++ [report])
        (if sweep.isAborting report then
          Sweep.logAbort report w
        else w)) := by
  refine
    .trans (leads_of_step (.advance 0) trivial ?_)
      (leads_send report)
  cases hAborting : sweep.isAborting report with
  | true =>
      simp [step?, advance?, solo, judge, hAborting,
        withWorker]
  | false =>
      simp [step?, advance?, solo, judge, hAborting,
        withWorker]

/- A flag that was raised stays up. -/
theorem leads_judge_raised (report : RunReport) :
    Leads sweep runner
      (solo others (.judging report) waiting true received
        w)
      (solo others .idle waiting true
        (received ++ [report]) w) := by
  refine
    .trans (leads_of_step (.advance 0) trivial ?_)
      (leads_send report)
  simp [step?, advance?, solo, judge, withWorker]

/- The analyses are run one after the other. -/
theorem leads_analyses
    {tuple : Tuple}
    {outcome : Outcome}
    {steps : List AnalysisStep}
    (finished : List AnalysisResult) :
    Leads sweep runner
      (solo others
        (.analyzing tuple outcome finished steps) waiting
        flag received w)
      (solo others
        (.judging
          (sweep.report tuple (.ok outcome)
            (finished ++
              (runAnalyses runner (sweep.outputDir tuple)
                steps w).1)))
        waiting flag received
        (runAnalyses runner (sweep.outputDir tuple) steps
          w).2) := by
  induction steps generalizing finished w with
  | nil =>
      have hWork :
          sweep.work runner
              (.analyzing tuple outcome finished []) w =
            (.judging
              (sweep.report tuple (.ok outcome)
                (finished ++ [])),
              w) := by
        rw [List.append_nil]
        rfl
      exact leads_work hWork trivial
  | cons step steps ih =>
      let result :=
        (step.run runner (sweep.outputDir tuple) w).1
      let w' := (step.run runner (sweep.outputDir tuple) w).2
      have hFirst :
          Leads sweep runner
            (solo others
              (.analyzing tuple outcome finished
                (step :: steps))
              waiting flag received w)
            (solo others
              (.analyzing tuple outcome
                (finished ++ [result]) steps)
              waiting flag received w') :=
        leads_work rfl trivial
      have hRest := @ih w' (finished ++ [result])
      rw [List.append_assoc] at hRest
      exact hFirst.trans hRest

/- A tuple is run from its directory to its report. -/
theorem leads_run (tuple : Tuple) :
    Leads sweep runner
      (solo others (.preparing tuple) waiting flag received
        w)
      (solo others
        (.judging (sweep.runTuple runner tuple w).1)
        waiting flag received
        (sweep.runTuple runner tuple w).2) := by
  unfold Sweep.runTuple Sweep.dispatch
  rcases hPrepare : sweep.prepare tuple w with ⟨e | dir, w'⟩
  · refine leads_work ?_ trivial
    unfold Sweep.work
    simp only [hPrepare]
  · have hReady :
        sweep.work runner (.preparing tuple) w =
          (.simulating tuple dir, w') := by
      unfold Sweep.work
      simp only [hPrepare]
    refine (leads_work hReady trivial).trans ?_
    dsimp only
    rcases hSimulate :
        sweep.simulate runner tuple dir w' with
      ⟨e | outcome, w''⟩
    · refine leads_work ?_ trivial
      unfold Sweep.work
      simp only [hSimulate]
    · let logged :=
        Sweep.logSimulator (sweep.outputDir tuple)
          (.ok outcome) w''
      have hLaunched :
          sweep.work runner (.simulating tuple dir) w' =
            (.analyzing tuple outcome []
                (sweep.stepsAfter outcome),
              logged) := by
        unfold Sweep.work
        simp only [hSimulate, logged]
      exact
        (leads_work hLaunched trivial).trans
          (leads_analyses [])

/- Tuples are handled one by one. -/
theorem leads_tuples
    (others : Nat)
    (flag : Bool)
    (tuples : List Tuple)
    (received : List RunReport)
    (w : World σ) :
    ∃ flag',
      Leads sweep runner
        (solo others .idle tuples flag received w)
        (solo others .idle [] flag'
          (received ++
            (sweep.runTuples runner flag tuples w).1)
          (sweep.runTuples runner flag tuples w).2) := by
  induction tuples generalizing flag received w with
  | nil =>
      refine ⟨flag, ?_⟩
      rw [Sweep.runTuples, List.append_nil]
      exact leads_refl _
  | cons tuple tuples ih =>
      cases flag with
      | true =>
          let skipped := sweep.skippedReport tuple
          have hTuple :
              Leads sweep runner
                (solo others .idle (tuple :: tuples) true
                  received w)
                (solo others .idle tuples true
                  (received ++ [skipped]) w) :=
            ((leads_take tuple).trans
              (leads_skip tuple)).trans
                (leads_judge_raised skipped)
          rcases ih true (received ++ [skipped]) w with
            ⟨flag', hRest⟩
          rw [List.append_assoc] at hRest
          rw [Sweep.runTuples, if_pos rfl]
          exact ⟨flag', hTuple.trans hRest⟩
      | false =>
          let report := (sweep.runTuple runner tuple w).1
          let w' := (sweep.runTuple runner tuple w).2
          let fatal := sweep.isAborting report
          let logged :=
            if fatal then Sweep.logAbort report w' else w'
          have hTuple :
              Leads sweep runner
                (solo others .idle (tuple :: tuples) false
                  received w)
                (solo others .idle tuples fatal
                  (received ++ [report]) logged) :=
            (((leads_take tuple).trans
              (leads_proceed tuple)).trans
                (leads_run tuple)).trans
                  (leads_judge report)
          rcases ih fatal (received ++ [report]) logged with
            ⟨flag', hRest⟩
          rw [List.append_assoc] at hRest
          rw [Sweep.runTuples, if_neg Bool.false_ne_true]
          exact ⟨flag', hTuple.trans hRest⟩

end Steps

end Pool

------------------------------------------------------------
-- Sweeps in Order
------------------------------------------------------------

namespace Sweep

variable {sweep : Sweep} {runner : Runner σ}

theorem tuple_runTuple
    (tuple : Tuple)
    (w : World σ) :
    (sweep.runTuple runner tuple w).1.tuple = tuple := by
  unfold runTuple
  dsimp only
  split
  · rfl
  · rfl

/- Reports come in the order of the tuples. -/
theorem map_tuple_runTuples
    (flag : Bool)
    (tuples : List Tuple)
    (w : World σ) :
    (sweep.runTuples runner flag tuples w).1.map
        RunReport.tuple =
      tuples := by
  induction tuples generalizing flag w with
  | nil => rfl
  | cons tuple tuples ih =>
      unfold runTuples
      split
      · simp [ih, skippedReport]
      · simp [ih, tuple_runTuple]

/- Reports that follow a grid are in its order. -/
theorem inGridOrder_of_map_tuple
    {grid : Grid}
    {reports : List RunReport}
    (hTuples :
      reports.map RunReport.tuple = grid.tuples) :
    inGridOrder reports = reports := by
  have hOrder := grid.pairwise_tuples
  rw [← hTuples, List.pairwise_map] at hOrder
  apply List.mergeSort_of_pairwise
  refine hOrder.imp ?_
  intro a b hLess
  exact decide_eq_true (Nat.le_of_lt hLess)

/-
  There is a schedule under which the pool does what is done
  tuple by tuple, and by which no tuple is taken out of
  order.
-/
theorem exists_schedule_inOrder
    (hWorkers : 0 < sweep.concurrency)
    (w : World σ) :
    ∃ schedule,
      (∀ move ∈ schedule, move.IsInOrder) ∧
        sweep.runScheduled? runner schedule w =
          some (sweep.run runner w) := by
  unfold runScheduled? run
  rcases hStart : sweep.start runner w with ⟨e | _, ready⟩
  · exact ⟨[], nofun, rfl⟩
  · rcases Nat.exists_eq_add_one.mpr hWorkers with
      ⟨others, hOthers⟩
    have hSolo :
        Pool.start sweep ready =
          Pool.solo others .idle sweep.grid.tuples false []
            ready := by
      simp [Pool.start, Pool.solo, hOthers,
        List.replicate_succ]
    have hLeads :
        ∃ flag,
          Pool.Leads sweep runner (Pool.start sweep ready)
            (Pool.solo others .idle [] flag
              (sweep.runTuples runner false
                sweep.grid.tuples ready).1
              (sweep.runTuples runner false
                sweep.grid.tuples ready).2) := by
      rw [hSolo]
      exact
        Pool.leads_tuples others false sweep.grid.tuples []
          ready
    rcases hLeads with ⟨flag, moves, hInOrder, hMoves⟩
    refine ⟨moves, hInOrder, ?_⟩
    dsimp only
    rw [hMoves]
    dsimp only
    rw [if_pos]
    · rw [Pool.solo,
        inGridOrder_of_map_tuple
          (map_tuple_runTuples _ _ _)]
    · refine ⟨rfl, ?_, rfl⟩
      intro worker hWorker
      rcases List.mem_cons.mp hWorker with rfl | hIdle
      · rfl
      · rw [(List.mem_replicate.mp hIdle).2]
        rfl

theorem exists_schedule
    (hWorkers : 0 < sweep.concurrency)
    (w : World σ) :
    ∃ schedule,
      sweep.runScheduled? runner schedule w =
        some (sweep.run runner w) := by
  rcases exists_schedule_inOrder hWorkers w with
    ⟨schedule, -, hRun⟩
  exact ⟨schedule, hRun⟩

end Sweep

end LatencySweep
