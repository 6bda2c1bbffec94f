import LatencySweep.Sweep.Pool
import Mathlib.Data.List.Perm.Basic

/-
  How far the tuples of a pool have come.

  A pool is seen as a collection of stages, one for every
  tuple. A move takes one tuple from one stage to the next
  and leaves the others where they are, so what is said of
  moves is said by cases on the stages, whoever the workers
  are and however they are timed.

  Main declarations:
    * `Stage`
    * `Pool.stages`
    * `Advance`
    * `Turn`
    * `Pool.GoesOn`
    * `Pool.advance?_cases`
    * `Pool.exists_turn`
    * `Pool.follow?_induction`
-/

namespace LatencySweep

variable {σ : Type}

------------------------------------------------------------
-- Stages
------------------------------------------------------------

/- The worker is at one of the parts of a run. -/
def Worker.IsAtWork : Worker → Prop
  | preparing _ => True
  | simulating _ _ => True
  | analyzing _ _ _ _ => True
  | _ => False

/- A worker that does nothing else is. -/
theorem Worker.isAtWork_of_ne
    {worker : Worker}
    (hIdle : worker ≠ .idle)
    (hChecked : ∀ tuple, worker ≠ .checking tuple)
    (hUnjudged : ∀ report, worker ≠ .judging report)
    (hUnsent : ∀ report, worker ≠ .sending report) :
    worker.IsAtWork := by
  cases worker with
  | idle => exact absurd rfl hIdle
  | checking tuple => exact absurd rfl (hChecked tuple)
  | judging report => exact absurd rfl (hUnjudged report)
  | sending report => exact absurd rfl (hUnsent report)
  | preparing | simulating | analyzing => trivial

/- A tuple waits, is held by a worker, or has a report. -/
inductive Stage where
  | waiting (tuple : Tuple)
  | held (worker : Worker)
  | reported (report : RunReport)

namespace Stage

/- The tuple that is at a stage. -/
def tuple? : Stage → Option Tuple
  | waiting tuple => some tuple
  | held worker => worker.tuple?
  | reported report => some report.tuple

/- The worker that holds the tuple. -/
def worker? : Stage → Option Worker
  | held worker => some worker
  | _ => none

/- The report that is made out, whether or not it was
   sent. -/
def report? : Stage → Option RunReport
  | held (.judging report) => some report
  | held (.sending report) => some report
  | reported report => some report
  | _ => none

end Stage

namespace Pool

/- The workers that have taken a tuple. -/
def busy (workers : List Worker) : List Worker :=
  workers.filter fun worker => !decide worker.IsIdle

/- The stages of all tuples. -/
def stages (pool : Pool σ) : List Stage :=
  pool.waiting.map .waiting ++
    (busy pool.workers).map .held ++
      (pool.sent ++ pool.received).map .reported

@[simp] theorem busy_cons_idle (workers : List Worker) :
    busy (.idle :: workers) = busy workers := rfl

theorem busy_cons
    {worker : Worker}
    (workers : List Worker)
    (hWorker : ¬ worker.IsIdle) :
    busy (worker :: workers) = worker :: busy workers := by
  simp [busy, hWorker]

@[simp] theorem busy_replicate_idle (count : Nat) :
    busy (List.replicate count .idle) = [] := by
  induction count with
  | zero => rfl
  | succ count ih => exact ih

theorem length_busy_le (workers : List Worker) :
    (busy workers).length ≤ workers.length :=
  List.length_filter_le _ workers

/- A worker among the others, up to their order. -/
theorem busy_perm
    {workers : List Worker}
    {number : Nat}
    {worker : Worker}
    (hWorker : workers[number]? = some worker) :
    (busy workers).Perm
      (busy (worker :: workers.eraseIdx number)) := by
  rcases List.getElem?_eq_some_iff.mp hWorker with
    ⟨hNumber, rfl⟩
  exact
    ((List.getElem_cons_eraseIdx_perm hNumber).filter
      _).symm

/- Another worker in its place. -/
theorem busy_set_perm
    {workers : List Worker}
    {number : Nat}
    (hNumber : number < workers.length)
    (next : Worker) :
    (busy (workers.set number next)).Perm
      (busy (next :: workers.eraseIdx number)) :=
  (List.set_perm_cons_eraseIdx hNumber next).filter _

/- In the beginning, all tuples wait. -/
theorem stages_start (sweep : Sweep) (w : World σ) :
    (start sweep w).stages =
      sweep.grid.tuples.map .waiting := by
  simp [stages, start]

/- In the end, all tuples have been reported on. -/
theorem stages_of_isDone
    {pool : Pool σ}
    (hDone : pool.IsDone) :
    pool.stages = pool.received.map .reported := by
  rcases hDone with ⟨hWaiting, hIdle, hSent⟩
  have hBusy : busy pool.workers = [] := by
    apply List.filter_eq_nil_iff.mpr
    intro worker hWorker
    simp [hIdle worker hWorker]
  simp [stages, hWaiting, hBusy, List.isEmpty_iff.mp hSent]

end Pool

------------------------------------------------------------
-- Advances
------------------------------------------------------------

/-
  One tuple comes from one stage to the next. The abort flag
  and the world are given before and after.
-/
inductive Advance
    (sweep : Sweep)
    (runner : Runner σ) :
    Stage → Bool → World σ →
      Stage → Bool → World σ → Prop where
  | take {tuple flag w} :
      Advance sweep runner (.waiting tuple) flag w
        (.held (.checking tuple)) flag w
  | skip {tuple w} :
      Advance sweep runner (.held (.checking tuple)) true w
        (.held (.judging (sweep.skippedReport tuple))) true w
  | proceed {tuple w} :
      Advance sweep runner (.held (.checking tuple)) false w
        (.held (.preparing tuple)) false w
  | prepare {tuple dir flag w next}
      (hPrepare : sweep.prepare tuple w = (.ok dir, next)) :
      Advance sweep runner (.held (.preparing tuple)) flag w
        (.held (.simulating tuple dir)) flag next
  | refuse {tuple e flag w next}
      (hPrepare :
        sweep.prepare tuple w = (.error e, next)) :
      Advance sweep runner (.held (.preparing tuple)) flag w
        (.held
          (.judging (sweep.report tuple (.error e) [])))
        flag
        (Sweep.logSimulator (sweep.outputDir tuple)
          (.error e) next)
  | simulate {tuple dir outcome flag w next}
      (hSimulate :
        sweep.simulate runner tuple dir w =
          (.ok outcome, next)) :
      Advance sweep runner (.held (.simulating tuple dir))
        flag w
        (.held
          (.analyzing tuple outcome []
            (sweep.stepsAfter outcome)))
        flag
        (Sweep.logSimulator (sweep.outputDir tuple)
          (.ok outcome) next)
  | misfire {tuple dir e flag w next}
      (hSimulate :
        sweep.simulate runner tuple dir w =
          (.error e, next)) :
      Advance sweep runner (.held (.simulating tuple dir))
        flag w
        (.held
          (.judging (sweep.report tuple (.error e) [])))
        flag
        (Sweep.logSimulator (sweep.outputDir tuple)
          (.error e) next)
  | analyze
      {tuple outcome finished step steps result flag w next}
      (hRun :
        AnalysisStep.run step runner
            (sweep.outputDir tuple) w =
          (result, next)) :
      Advance sweep runner
        (.held
          (.analyzing tuple outcome finished
            (step :: steps)))
        flag w
        (.held
          (.analyzing tuple outcome (finished ++ [result])
            steps))
        flag next
  | conclude {tuple outcome finished flag w} :
      Advance sweep runner
        (.held (.analyzing tuple outcome finished []))
        flag w
        (.held
          (.judging
            (sweep.report tuple (.ok outcome) finished)))
        flag w
  | alarm {report w}
      (hAborting : sweep.isAborting report = true) :
      Advance sweep runner (.held (.judging report)) false w
        (.held (.sending report)) true
        (Sweep.logAbort report w)
  | judge {report flag w}
      (hCalm :
        sweep.isAborting report = true → flag = true) :
      Advance sweep runner (.held (.judging report)) flag w
        (.held (.sending report)) flag w
  | send {report flag w} :
      Advance sweep runner (.held (.sending report)) flag w
        (.reported report) flag w
  | receive {report flag w} :
      Advance sweep runner (.reported report) flag w
        (.reported report) flag w

/- An advance stays with its tuple. -/
theorem Advance.tuple?_eq
    {sweep : Sweep}
    {runner : Runner σ}
    {before after : Stage}
    {flag flag' : Bool}
    {w w' : World σ}
    (hAdvance :
      Advance sweep runner before flag w after flag' w') :
    after.tuple? = before.tuple? := by
  cases hAdvance <;> rfl

/- Some tuple advances. -/
theorem Advance.exists_tuple
    {sweep : Sweep}
    {runner : Runner σ}
    {before after : Stage}
    {flag flag' : Bool}
    {w w' : World σ}
    (hAdvance :
      Advance sweep runner before flag w after flag' w') :
    ∃ tuple, before.tuple? = some tuple := by
  cases hAdvance <;> exact ⟨_, rfl⟩

------------------------------------------------------------
-- Turns
------------------------------------------------------------

namespace Pool

/- The worker that a move lets go on. -/
def mover? (move : Move) (pool : Pool σ) : Option Worker :=
  match move with
  | .advance number => pool.workers[number]?
  | _ => none

end Pool

/-
  What a move does to a pool: one tuple advances while the
  others stay where they are.
-/
structure Turn
    (sweep : Sweep)
    (runner : Runner σ)
    (move : Move)
    (pool next : Pool σ)
    (before after : Stage)
    (others : List Stage) : Prop where
  advance :
    Advance sweep runner before pool.aborted pool.world
      after next.aborted next.world
  stages_before : pool.stages.Perm (before :: others)
  stages_after : next.stages.Perm (after :: others)
  workers_length :
    next.workers.length = pool.workers.length
  mover : pool.mover? move = before.worker?

/- What is said of every stage is kept by a turn if the stage
   that advances keeps it. -/
theorem Turn.forall_stages
    {sweep : Sweep}
    {runner : Runner σ}
    {move : Move}
    {pool next : Pool σ}
    {before after : Stage}
    {others : List Stage}
    {Holds : Stage → Prop}
    (hTurn :
      Turn sweep runner move pool next before after others)
    (hAdvance : Holds before → Holds after)
    (hPool : ∀ stage ∈ pool.stages, Holds stage) :
    ∀ stage ∈ next.stages, Holds stage := by
  intro stage hStage
  rcases List.mem_cons.mp
      (hTurn.stages_after.subset hStage) with
    rfl | hOther
  · exact hAdvance
      (hPool before
        (hTurn.stages_before.symm.subset
          List.mem_cons_self))
  · exact hPool stage
      (hTurn.stages_before.symm.subset
        (List.mem_cons_of_mem _ hOther))

namespace Pool

variable {sweep : Sweep} {runner : Runner σ}

/- The stages of tuples, worker by worker. -/
def arrange
    (waiting : List Tuple)
    (held : List Worker)
    (reports : List RunReport) : List Stage :=
  waiting.map .waiting ++ held.map .held ++
    reports.map .reported

theorem stages_eq (pool : Pool σ) :
    pool.stages =
      arrange pool.waiting (busy pool.workers)
        (pool.sent ++ pool.received) := rfl

/- A tuple that is held stands before all others. -/
theorem arrange_held_perm
    (waiting : List Tuple)
    {held rest : List Worker}
    {worker : Worker}
    (reports : List RunReport)
    (hHeld : held.Perm (worker :: rest)) :
    (arrange waiting held reports).Perm
      (.held worker :: arrange waiting rest reports) := by
  unfold arrange
  refine
    (((hHeld.map Stage.held).append_left _).append_right
      _).trans ?_
  simp only [List.map_cons, List.append_assoc,
    List.cons_append]
  exact List.perm_middle

/- A worker goes on with its tuple, and apart from the flag
   and the world nothing else changes. -/
structure GoesOn
    (sweep : Sweep)
    (runner : Runner σ)
    (number : Nat)
    (pool next : Pool σ)
    (worker other : Worker) : Prop where
  advance :
    Advance sweep runner (.held worker) pool.aborted
      pool.world (.held other) next.aborted next.world
  workers : next.workers = pool.workers.set number other
  waiting : next.waiting = pool.waiting
  sent : next.sent = pool.sent
  received : next.received = pool.received

/- A worker that goes on with its tuple makes a turn. -/
theorem GoesOn.exists_turn
    {pool next : Pool σ}
    {number : Nat}
    {worker other : Worker}
    (hGoesOn :
      GoesOn sweep runner number pool next worker other)
    (hWorker : pool.workers[number]? = some worker)
    (hBusy : ¬ worker.IsIdle) :
    ∃ before after others,
      Turn sweep runner (.advance number) pool next
        before after others := by
  have hNumber :=
    (List.getElem?_eq_some_iff.mp hWorker).1
  have hOther : ¬ other.IsIdle := by
    have hTuple : other.tuple? = worker.tuple? :=
      hGoesOn.advance.tuple?_eq
    rwa [Worker.IsIdle, hTuple]
  have hBefore := busy_perm hWorker
  rw [busy_cons _ hBusy] at hBefore
  have hAfter := busy_set_perm hNumber other
  rw [busy_cons _ hOther, ← hGoesOn.workers] at hAfter
  refine
    ⟨.held worker, .held other,
      arrange pool.waiting
        (busy (pool.workers.eraseIdx number))
        (pool.sent ++ pool.received),
      { advance := hGoesOn.advance
        stages_before := arrange_held_perm _ _ hBefore
        stages_after := ?_
        workers_length := ?_
        mover := hWorker }⟩
  · rw [stages_eq, hGoesOn.waiting, hGoesOn.sent,
      hGoesOn.received]
    exact arrange_held_perm _ _ hAfter
  · rw [hGoesOn.workers, List.length_set]

/- An idle worker takes a tuple. -/
theorem turn_of_take
    {pool next : Pool σ}
    {number position : Nat}
    (hTake : pool.take? number position = some next) :
    ∃ before after others,
      Turn sweep runner (.take number position) pool next
        before after others := by
  unfold take? at hTake
  split at hTake
  next tuple hWorker hTuple =>
    cases hTake
    have hNumber :=
      (List.getElem?_eq_some_iff.mp hWorker).1
    rcases List.getElem?_eq_some_iff.mp hTuple with
      ⟨hPosition, rfl⟩
    have hIdle := busy_perm hWorker
    rw [busy_cons_idle] at hIdle
    let tuple := pool.waiting[position]
    have hAfter :=
      busy_set_perm hNumber (.checking tuple)
    rw [busy_cons _ (by simp [Worker.IsIdle, Worker.tuple?])]
      at hAfter
    let reports := pool.sent ++ pool.received
    refine
      ⟨.waiting tuple, .held (.checking tuple),
        arrange (pool.waiting.eraseIdx position)
          (busy (pool.workers.eraseIdx number)) reports,
        { advance := .take
          stages_before := ?_
          stages_after := arrange_held_perm _ _ hAfter
          workers_length := List.length_set
          mover := rfl }⟩
    have hWaiting :=
      (List.getElem_cons_eraseIdx_perm hPosition).symm
    exact
      (((hWaiting.map Stage.waiting).append
        (hIdle.map Stage.held)).append_right _)
  next => cases hTake

/- A worker sends its report and is idle again. -/
theorem turn_of_send
    {pool : Pool σ}
    {number : Nat}
    {report : RunReport}
    (hWorker :
      pool.workers[number]? = some (.sending report)) :
    ∃ others,
      Turn sweep runner (.advance number) pool
        (pool.send number report)
        (.held (.sending report)) (.reported report)
        others := by
  have hNumber :=
    (List.getElem?_eq_some_iff.mp hWorker).1
  have hBefore := busy_perm hWorker
  rw [busy_cons _ (by simp [Worker.IsIdle, Worker.tuple?])]
    at hBefore
  have hIdle := busy_set_perm hNumber .idle
  rw [busy_cons_idle] at hIdle
  let rest := busy (pool.workers.eraseIdx number)
  let reports := pool.sent ++ pool.received
  refine
    ⟨arrange pool.waiting rest reports,
      { advance := .send
        stages_before := arrange_held_perm _ _ hBefore
        stages_after := ?_
        workers_length := List.length_set
        mover := hWorker }⟩
  have hReports :
      (pool.sent ++ [report] ++ pool.received).Perm
        (report :: reports) := by
    rw [List.append_assoc]
    exact List.perm_middle
  refine
    (((hIdle.map Stage.held).append_left _).append
      (hReports.map Stage.reported)).trans ?_
  exact List.perm_middle

/- A report is received. -/
theorem turn_of_receive
    {pool next : Pool σ}
    (hReceive : pool.receive? = some next) :
    ∃ before after others,
      Turn sweep runner .receive pool next before after
        others := by
  unfold receive? at hReceive
  split at hReceive
  next => cases hReceive
  next report sent hSent =>
    cases hReceive
    let front :=
      pool.waiting.map Stage.waiting ++
        (busy pool.workers).map Stage.held
    refine
      ⟨.reported report, .reported report,
        front ++ (sent ++ pool.received).map .reported,
        { advance := .receive
          stages_before := ?_
          stages_after := ?_
          workers_length := rfl
          mover := rfl }⟩
    · rw [stages_eq, hSent]
      exact List.perm_middle
    · have hReports :
          (sent ++ (pool.received ++ [report])).Perm
            (report :: (sent ++ pool.received)) := by
        rw [← List.append_assoc]
        exact List.perm_append_singleton _ _
      exact
        ((hReports.map Stage.reported).append_left
          front).trans List.perm_middle

/- What a worker does next advances its tuple. -/
theorem advance_of_work
    (sweep : Sweep)
    (runner : Runner σ)
    {worker : Worker}
    (flag : Bool)
    (w : World σ)
    (hAtWork : worker.IsAtWork) :
    Advance sweep runner (.held worker) flag w
      (.held (sweep.work runner worker w).1) flag
      (sweep.work runner worker w).2 := by
  unfold Sweep.work
  cases worker with
  | idle | checking | judging | sending => cases hAtWork
  | preparing tuple =>
      rcases hPrepare : sweep.prepare tuple w with
        ⟨e | dir, next⟩
      · simp only [hPrepare]
        exact .refuse hPrepare
      · simp only [hPrepare]
        exact .prepare hPrepare
  | simulating tuple dir =>
      rcases hSimulate :
          sweep.simulate runner tuple dir w with
        ⟨e | outcome, next⟩
      · simp only [hSimulate]
        exact .misfire hSimulate
      · simp only [hSimulate]
        exact .simulate hSimulate
  | analyzing tuple outcome finished steps =>
      cases steps with
      | nil => exact .conclude
      | cons step steps =>
          rcases hRun :
              step.run runner (sweep.outputDir tuple) w with
            ⟨result, next⟩
          simp only [hRun]
          exact .analyze hRun

/- A worker looks at the abort flag. -/
theorem goesOn_of_check
    (sweep : Sweep)
    (runner : Runner σ)
    (number : Nat)
    (tuple : Tuple)
    (pool : Pool σ) :
    ∃ other,
      GoesOn sweep runner number pool
        (pool.check sweep number tuple) (.checking tuple)
        other := by
  unfold check
  split
  next hAborted =>
    refine ⟨.judging (sweep.skippedReport tuple), ?_, rfl, rfl,
      rfl, rfl⟩
    simp only [withWorker, hAborted]
    exact .skip
  next hAborted =>
    refine ⟨.preparing tuple, ?_, rfl, rfl, rfl, rfl⟩
    simp only [withWorker, Bool.not_eq_true _ ▸ hAborted]
    exact .proceed

/- A worker decides whether its report calls for an abort. -/
theorem goesOn_of_judge
    (sweep : Sweep)
    (runner : Runner σ)
    (number : Nat)
    (report : RunReport)
    (pool : Pool σ) :
    GoesOn sweep runner number pool
      (pool.judge sweep number report) (.judging report)
      (.sending report) := by
  unfold judge
  split
  next hAlarm =>
    rw [Bool.and_eq_true, Bool.not_eq_true'] at hAlarm
    refine ⟨?_, rfl, rfl, rfl, rfl⟩
    simp only [hAlarm.2]
    exact .alarm hAlarm.1
  next hCalm =>
    refine ⟨.judge ?_, rfl, rfl, rfl, rfl⟩
    intro hAborting
    simpa [hAborting] using hCalm

/- A worker that moves sends its report or goes on with its
   tuple. -/
theorem advance?_cases
    {pool next : Pool σ}
    {number : Nat}
    (hAdvance :
      pool.advance? sweep runner number = some next) :
    ∃ worker,
      pool.workers[number]? = some worker ∧
        ¬ worker.IsIdle ∧
        ((∃ report,
          worker = .sending report ∧
            next = pool.send number report) ∨
          ∃ other,
            GoesOn sweep runner number pool next worker
              other) := by
  unfold advance? at hAdvance
  split at hAdvance
  next => cases hAdvance
  next => cases hAdvance
  next tuple hWorker =>
    cases hAdvance
    exact
      ⟨_, hWorker, nofun,
        Or.inr (goesOn_of_check sweep runner number tuple pool)⟩
  next report hWorker =>
    cases hAdvance
    exact
      ⟨_, hWorker, nofun,
        Or.inr
          ⟨_, goesOn_of_judge sweep runner number report
            pool⟩⟩
  next report hWorker =>
    cases hAdvance
    exact ⟨_, hWorker, nofun, Or.inl ⟨report, rfl, rfl⟩⟩
  next worker hIdle hChecked hUnjudged hUnsent hWorker =>
    cases hAdvance
    have hBusy : ¬ worker.IsIdle := by
      rw [Worker.isIdle_iff]
      exact hIdle
    have hAtWork : worker.IsAtWork :=
      Worker.isAtWork_of_ne hIdle hChecked hUnjudged hUnsent
    have hWork :=
      advance_of_work sweep runner pool.aborted pool.world
        hAtWork
    exact
      ⟨_, hWorker, hBusy,
        Or.inr ⟨_, hWork, rfl, rfl, rfl, rfl⟩⟩

/- A worker that moves makes a turn. -/
theorem turn_of_advance
    {pool next : Pool σ}
    {number : Nat}
    (hAdvance :
      pool.advance? sweep runner number = some next) :
    ∃ before after others,
      Turn sweep runner (.advance number) pool next before
        after others := by
  rcases advance?_cases hAdvance with
    ⟨worker, hWorker, hBusy, ⟨report, rfl, rfl⟩ |
      ⟨other, hGoesOn⟩⟩
  · exact ⟨_, _, turn_of_send hWorker⟩
  · exact hGoesOn.exists_turn hWorker hBusy

/- Every move that can be made is a turn. -/
theorem exists_turn
    {move : Move}
    {pool next : Pool σ}
    (hStep : pool.step? sweep runner move = some next) :
    ∃ before after others,
      Turn sweep runner move pool next before after
        others := by
  cases move with
  | take number position => exact turn_of_take hStep
  | advance number => exact turn_of_advance hStep
  | receive => exact turn_of_receive hStep

/-
  What holds of a pool and is kept by every turn holds after
  any moves in a row.
-/
theorem follow?_induction
    (Holds : Pool σ → Prop)
    (hTurn :
      ∀ {move pool next before after others},
        Turn sweep runner move pool next before after
          others →
        Holds pool → Holds next)
    {moves : List Move}
    {pool final : Pool σ}
    (hFollow :
      pool.follow? sweep runner moves = some final)
    (hPool : Holds pool) :
    Holds final := by
  induction moves generalizing pool with
  | nil =>
      cases hFollow
      exact hPool
  | cons move moves ih =>
      unfold follow? at hFollow
      split at hFollow
      next => cases hFollow
      next next hStep =>
        rcases exists_turn hStep with
          ⟨before, after, others, hMade⟩
        exact ih hFollow (hTurn hMade hPool)

/- What every advance keeps holds of all stages throughout. -/
theorem follow?_forall_stages
    {Holds : Stage → Prop}
    (hAdvance :
      ∀ {before flag w after flag' w'},
        Advance sweep runner before flag w after flag' w' →
        Holds before → Holds after)
    {moves : List Move}
    {pool final : Pool σ}
    (hFollow :
      pool.follow? sweep runner moves = some final)
    (hPool : ∀ stage ∈ pool.stages, Holds stage) :
    ∀ stage ∈ final.stages, Holds stage :=
  follow?_induction _
    (fun hTurn =>
      hTurn.forall_stages (hAdvance hTurn.advance))
    hFollow hPool

end Pool

end LatencySweep
