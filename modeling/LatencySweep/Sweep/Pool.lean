import LatencySweep.Sweep.Run

/-
  Running a sweep with a pool of workers.

  Idle workers take waiting tuples in any order. Each works
  on its tuple in small moves between which the others may
  move, and sends its report before it takes another tuple.
  The reports are received one by one and put in the order
  of the grid. A worker looks at the abort flag once, before
  it prepares the directory of its tuple.

  A schedule says who moves when. Everything that is said of
  all schedules holds however the workers are timed.

  Key definitions include:
    * `Worker`
    * `Pool`
    * `Pool.tuples`
    * `Move`
    * `Pool.step?`
    * `Pool.follow?`
    * `Sweep.runScheduled?`
-/

namespace LatencySweep

variable {σ : Type}

------------------------------------------------------------
-- Workers
------------------------------------------------------------

/- What a worker is about to do. -/
inductive Worker where
  | idle
  | checking (tuple : Tuple)
  | preparing (tuple : Tuple)
  | simulating (tuple : Tuple) (dir : Path)
  | analyzing
      (tuple : Tuple) (outcome : Outcome)
      (finished : List AnalysisResult)
      (steps : List AnalysisStep)
  | judging (report : RunReport)
  | sending (report : RunReport)

namespace Worker

/- The tuple that a worker has taken. -/
def tuple? : Worker → Option Tuple
  | idle => none
  | checking tuple => some tuple
  | preparing tuple => some tuple
  | simulating tuple _ => some tuple
  | analyzing tuple _ _ _ => some tuple
  | judging report => some report.tuple
  | sending report => some report.tuple

/- The worker has not taken a tuple. -/
def IsIdle (worker : Worker) : Prop :=
  worker.tuple? = none

instance (worker : Worker) : Decidable worker.IsIdle := by
  unfold IsIdle
  infer_instance

theorem isIdle_iff (worker : Worker) :
    worker.IsIdle ↔ worker = idle := by
  cases worker <;> simp [IsIdle, tuple?]

end Worker

------------------------------------------------------------
-- Pools
------------------------------------------------------------

/- The tuples that wait, the workers, the abort flag, the
   reports that were sent and received, and the world. -/
structure Pool (σ : Type) where
  waiting : List Tuple
  workers : List Worker
  aborted : Bool
  sent : List RunReport
  received : List RunReport
  world : World σ

namespace Pool

/- A pool in which nobody has moved yet. -/
def start (sweep : Sweep) (w : World σ) : Pool σ :=
  { waiting := sweep.grid.tuples
    workers := List.replicate sweep.concurrency .idle
    aborted := false
    sent := []
    received := []
    world := w }

/- The tuples that wait, are worked on, or have a report. -/
def tuples (pool : Pool σ) : List Tuple :=
  pool.waiting ++ pool.workers.filterMap Worker.tuple? ++
    (pool.sent ++ pool.received).map RunReport.tuple

/- In the beginning, these are the tuples of the grid. -/
theorem tuples_start (sweep : Sweep) (w : World σ) :
    (start sweep w).tuples = sweep.grid.tuples := by
  have hIdle (n : Nat) :
      (List.replicate n Worker.idle).filterMap Worker.tuple? =
        [] := by
    induction n with
    | zero => rfl
    | succ n ih =>
        rw [List.replicate_succ, List.filterMap_cons]
        exact ih
  simp [tuples, start, hIdle]

/- All tuples have been reported on. -/
def IsDone (pool : Pool σ) : Prop :=
  pool.waiting = [] ∧
    (∀ worker ∈ pool.workers, worker.IsIdle) ∧
      pool.sent.isEmpty

instance (pool : Pool σ) : Decidable pool.IsDone := by
  unfold IsDone
  infer_instance

/- The pool with one worker about to do something else. -/
def withWorker
    (pool : Pool σ)
    (number : Nat)
    (worker : Worker) : Pool σ :=
  { pool with workers := pool.workers.set number worker }

end Pool

------------------------------------------------------------
-- Work on a Tuple
------------------------------------------------------------

namespace Sweep

/- What a worker does next with a tuple it has checked. The
   world changes, but nothing else does. -/
def work
    (sweep : Sweep)
    (runner : Runner σ)
    (worker : Worker)
    (w : World σ) : Worker × World σ :=
  match worker with
  | .preparing tuple =>
      match sweep.prepare tuple w with
      | (.ok dir, w) => (.simulating tuple dir, w)
      | (.error e, w) =>
          (.judging (sweep.report tuple (.error e) []),
            logSimulator (sweep.outputDir tuple) (.error e) w)
  | .simulating tuple dir =>
      let (result, w) := sweep.simulate runner tuple dir w
      let w := logSimulator (sweep.outputDir tuple) result w
      match result with
      | .error e =>
          (.judging (sweep.report tuple (.error e) []), w)
      | .ok outcome =>
          (.analyzing tuple outcome []
              (sweep.stepsAfter outcome),
            w)
  | .analyzing tuple outcome finished [] =>
      (.judging (sweep.report tuple (.ok outcome) finished), w)
  | .analyzing tuple outcome finished (step :: steps) =>
      let (result, w) :=
        step.run runner (sweep.outputDir tuple) w
      (.analyzing tuple outcome (finished ++ [result]) steps, w)
  | worker => (worker, w)

end Sweep

------------------------------------------------------------
-- Moves
------------------------------------------------------------

/- What happens next: a worker takes a waiting tuple or goes
   on with its own, or a report is received. -/
inductive Move where
  | take (number position : Nat)
  | advance (number : Nat)
  | receive
  deriving DecidableEq

namespace Pool

/- An idle worker takes a waiting tuple. -/
def take?
    (number position : Nat)
    (pool : Pool σ) : Option (Pool σ) :=
  match pool.workers[number]?, pool.waiting[position]? with
  | some .idle, some tuple =>
      some
        { pool.withWorker number (.checking tuple) with
          waiting := pool.waiting.eraseIdx position }
  | _, _ => none

/- The worker looks at the abort flag. -/
def check
    (sweep : Sweep)
    (number : Nat)
    (tuple : Tuple)
    (pool : Pool σ) : Pool σ :=
  if pool.aborted then
    pool.withWorker number
      (.judging (sweep.skippedReport tuple))
  else pool.withWorker number (.preparing tuple)

/- The worker raises the abort flag if its run calls for it;
   the first one to do so says so in the log. -/
def judge
    (sweep : Sweep)
    (number : Nat)
    (report : RunReport)
    (pool : Pool σ) : Pool σ :=
  let next := pool.withWorker number (.sending report)
  if sweep.isAborting report && !pool.aborted then
    { next with
      aborted := true
      world := Sweep.logAbort report pool.world }
  else next

/- The worker sends its report. -/
def send
    (number : Nat)
    (report : RunReport)
    (pool : Pool σ) : Pool σ :=
  { pool.withWorker number .idle with
    sent := pool.sent ++ [report] }

/- A worker goes on with its tuple. -/
def advance?
    (sweep : Sweep)
    (runner : Runner σ)
    (number : Nat)
    (pool : Pool σ) : Option (Pool σ) :=
  match pool.workers[number]? with
  | none | some .idle => none
  | some (.checking tuple) =>
      some (pool.check sweep number tuple)
  | some (.judging report) =>
      some (pool.judge sweep number report)
  | some (.sending report) => some (pool.send number report)
  | some worker =>
      let (next, w) := sweep.work runner worker pool.world
      some { pool.withWorker number next with world := w }

/- The report that was sent first is received. -/
def receive? (pool : Pool σ) : Option (Pool σ) :=
  match pool.sent with
  | [] => none
  | report :: sent =>
      some
        { pool with
          sent, received := pool.received ++ [report] }

/- The pool after a move, if the move can be made. -/
def step?
    (sweep : Sweep)
    (runner : Runner σ)
    (move : Move)
    (pool : Pool σ) : Option (Pool σ) :=
  match move with
  | .take number position => pool.take? number position
  | .advance number => pool.advance? sweep runner number
  | .receive => pool.receive?

/- The pool after moves in a row. -/
def follow?
    (sweep : Sweep)
    (runner : Runner σ) :
    List Move → Pool σ → Option (Pool σ)
  | [], pool => some pool
  | move :: moves, pool =>
      match pool.step? sweep runner move with
      | none => none
      | some next => follow? sweep runner moves next

theorem follow?_append
    (sweep : Sweep) (runner : Runner σ)
    (first second : List Move) (pool : Pool σ) :
    pool.follow? sweep runner (first ++ second) =
      (pool.follow? sweep runner first).bind
        (follow? sweep runner second) := by
  induction first generalizing pool with
  | nil => rfl
  | cons move moves ih =>
      simp only [List.cons_append, follow?]
      cases pool.step? sweep runner move with
      | none => rfl
      | some next => exact ih next

end Pool

------------------------------------------------------------
-- Scheduled Sweeps
------------------------------------------------------------

/- Reports in the order of the grid. -/
def inGridOrder (reports : List RunReport) : List RunReport :=
  reports.mergeSort fun a b =>
    decide (a.tuple.index ≤ b.tuple.index)

/- Run a sweep with the workers timed by a schedule. There is
   no result unless the schedule gets all tuples done. -/
def Sweep.runScheduled?
    (sweep : Sweep)
    (runner : Runner σ)
    (schedule : List Move)
    (w : World σ) :
    Option (Except SweepError SweepSummary × World σ) :=
  match sweep.start runner w with
  | (.error e, w) => some (.error e, w)
  | (.ok _, w) =>
      match (Pool.start sweep w).follow? sweep runner
          schedule with
      | none => none
      | some pool =>
          if pool.IsDone then
            let (summary, w) :=
              finish (inGridOrder pool.received) pool.world
            some (.ok summary, w)
          else none

end LatencySweep
