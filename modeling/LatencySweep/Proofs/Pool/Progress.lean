import LatencySweep.Proofs.Pool.Stages
import Mathlib.Algebra.Ring.Nat

/-
  However the workers are timed, all tuples get done.

  Every move brings a tuple closer to its report, so there
  are only so many moves. Until all tuples have a report,
  some move can be made. A schedule that cannot go on has
  therefore come to the end.

  Main declarations:
    * `Pool.movesLeft`
    * `Pool.movesLeft_of_step`
    * `Pool.length_le_of_follow`
    * `Pool.exists_step`
    * `Pool.exists_isDone_of_follow`
-/

namespace LatencySweep

variable {σ : Type}

------------------------------------------------------------
-- Moves to Come
------------------------------------------------------------

/- The most moves that are made with the tuple of a worker,
   up to the receipt of its report. -/
def Worker.movesLeft (sweep : Sweep) : Worker → Nat
  | idle => 0
  | sending _ => 2
  | judging _ => 3
  | analyzing _ _ _ steps => steps.length + 4
  | simulating _ _ => sweep.analyses.length + 5
  | preparing _ => sweep.analyses.length + 6
  | checking _ => sweep.analyses.length + 7

/- The most moves that are made for one tuple. -/
def Sweep.movesPerTuple (sweep : Sweep) : Nat :=
  sweep.analyses.length + 8

namespace Pool

/- The most moves that are made with all workers. -/
def workerMoves
    (sweep : Sweep)
    (workers : List Worker) : Nat :=
  (workers.map (Worker.movesLeft sweep)).sum

/- The most moves that are made in a pool. -/
def movesLeft (sweep : Sweep) (pool : Pool σ) : Nat :=
  pool.waiting.length * sweep.movesPerTuple +
    workerMoves sweep pool.workers + pool.sent.length

/- In the beginning, these are the moves for all tuples. -/
theorem movesLeft_start (sweep : Sweep) (w : World σ) :
    (start sweep w).movesLeft sweep =
      sweep.grid.tuples.length * sweep.movesPerTuple := by
  have hIdle :
      workerMoves sweep
        (List.replicate sweep.concurrency .idle) = 0 := by
    simp [workerMoves, Worker.movesLeft]
  simp [movesLeft, start, hIdle]

/- One worker is about to do something else. -/
theorem workerMoves_set
    (sweep : Sweep)
    {workers : List Worker}
    {number : Nat}
    {worker : Worker}
    (hWorker : workers[number]? = some worker)
    (next : Worker) :
    workerMoves sweep (workers.set number next) +
        worker.movesLeft sweep =
      workerMoves sweep workers +
        next.movesLeft sweep := by
  rcases List.getElem?_eq_some_iff.mp hWorker with
    ⟨hNumber, rfl⟩
  have hBefore :=
    ((List.getElem_cons_eraseIdx_perm hNumber).map
      (Worker.movesLeft sweep)).sum_nat
  have hAfter :=
    ((List.set_perm_cons_eraseIdx hNumber next).map
      (Worker.movesLeft sweep)).sum_nat
  rw [List.map_cons, List.sum_cons] at hBefore hAfter
  unfold workerMoves
  omega

------------------------------------------------------------
-- Every Move Counts
------------------------------------------------------------

variable {sweep : Sweep} {runner : Runner σ}
variable {pool next : Pool σ}

/- What a worker does is one of its moves. -/
theorem movesLeft_work
    {worker : Worker}
    (w : World σ)
    (hAtWork : worker.IsAtWork) :
    (sweep.work runner worker w).1.movesLeft sweep <
      worker.movesLeft sweep := by
  have hSteps (outcome : Outcome) :
      (sweep.stepsAfter outcome).length ≤
        sweep.analyses.length := by
    unfold Sweep.stepsAfter
    split
    · exact Nat.le_refl _
    · exact Nat.zero_le _
  cases worker with
  | idle | checking | judging | sending => cases hAtWork
  | preparing tuple =>
      unfold Sweep.work
      dsimp only
      split <;> simp only [Worker.movesLeft] <;> omega
  | simulating tuple dir =>
      unfold Sweep.work
      dsimp only
      split
      next => simp only [Worker.movesLeft]; omega
      next outcome _ =>
        have := hSteps outcome
        simp only [Worker.movesLeft]
        omega
  | analyzing tuple outcome finished steps =>
      cases steps with
      | nil => exact Nat.lt_succ_self 3
      | cons step steps =>
          exact
            Nat.add_lt_add_right
              (Nat.lt_succ_self steps.length) 4

/- A move of a worker is one of all moves. -/
theorem movesLeft_of_worker
    {number : Nat}
    {worker after : Worker}
    (hWorker : pool.workers[number]? = some worker)
    (hWorkers :
      next.workers = pool.workers.set number after)
    (hWaiting : next.waiting = pool.waiting)
    (hSent :
      next.sent.length + after.movesLeft sweep <
        pool.sent.length + worker.movesLeft sweep) :
    next.movesLeft sweep < pool.movesLeft sweep := by
  have hMoves :=
    workerMoves_set sweep hWorker after
  unfold movesLeft
  rw [hWorkers, hWaiting]
  omega

theorem movesLeft_of_take
    {number position : Nat}
    (hTake : pool.take? number position = some next) :
    next.movesLeft sweep < pool.movesLeft sweep := by
  unfold take? at hTake
  split at hTake
  next tuple hWorker hTuple =>
    cases hTake
    have hMoves :=
      workerMoves_set sweep hWorker
        (.checking tuple)
    rcases List.getElem?_eq_some_iff.mp hTuple with
      ⟨hPosition, -⟩
    have hLength :=
      List.length_eraseIdx_add_one hPosition
    have hWaiting :
        pool.waiting.length * sweep.movesPerTuple =
          (pool.waiting.eraseIdx position).length *
              sweep.movesPerTuple +
            (sweep.analyses.length + 8) := by
      rw [← hLength, Nat.succ_mul]
      rfl
    simp only [Worker.movesLeft] at hMoves
    simp only [movesLeft, withWorker]
    omega
  next => cases hTake

theorem movesLeft_of_advance
    {number : Nat}
    (hAdvance :
      pool.advance? sweep runner number = some next) :
    next.movesLeft sweep < pool.movesLeft sweep := by
  unfold advance? at hAdvance
  split at hAdvance
  next => cases hAdvance
  next => cases hAdvance
  next tuple hWorker =>
    cases hAdvance
    unfold check
    split
    · refine movesLeft_of_worker hWorker rfl rfl ?_
      simp only [withWorker, Worker.movesLeft]
      omega
    · refine movesLeft_of_worker hWorker rfl rfl ?_
      simp only [withWorker, Worker.movesLeft]
      omega
  next report hWorker =>
    cases hAdvance
    unfold judge
    dsimp only
    split
    · refine movesLeft_of_worker hWorker rfl rfl ?_
      simp only [withWorker, Worker.movesLeft]
      omega
    · refine movesLeft_of_worker hWorker rfl rfl ?_
      simp only [withWorker, Worker.movesLeft]
      omega
  next report hWorker =>
    cases hAdvance
    refine movesLeft_of_worker hWorker rfl rfl ?_
    simp only [send, withWorker, Worker.movesLeft,
      List.length_append, List.length_singleton]
    omega
  next worker hIdle hChecked hUnjudged hUnsent hWorker =>
    cases hAdvance
    have hAtWork : worker.IsAtWork :=
      Worker.isAtWork_of_ne hIdle hChecked hUnjudged hUnsent
    refine movesLeft_of_worker hWorker rfl rfl ?_
    exact
      Nat.add_lt_add_left
        (movesLeft_work pool.world hAtWork) _

theorem movesLeft_of_receive
    (hReceive : pool.receive? = some next) :
    next.movesLeft sweep < pool.movesLeft sweep := by
  unfold receive? at hReceive
  split at hReceive
  next => cases hReceive
  next report sent hSent =>
    cases hReceive
    unfold movesLeft
    rw [hSent, List.length_cons]
    exact Nat.lt_succ_self _

/- So there is one move less to come after every move. -/
theorem movesLeft_of_step
    {move : Move}
    (hStep : pool.step? sweep runner move = some next) :
    next.movesLeft sweep < pool.movesLeft sweep := by
  cases move with
  | take number position => exact movesLeft_of_take hStep
  | advance number => exact movesLeft_of_advance hStep
  | receive => exact movesLeft_of_receive hStep

/- And no more moves can be made than are to come. -/
theorem length_le_of_follow
    {moves : List Move}
    {final : Pool σ}
    (hFollow :
      pool.follow? sweep runner moves = some final) :
    moves.length + final.movesLeft sweep ≤
      pool.movesLeft sweep := by
  induction moves generalizing pool with
  | nil =>
      cases hFollow
      exact Nat.le_of_eq (Nat.zero_add _)
  | cons move moves ih =>
      unfold follow? at hFollow
      split at hFollow
      next => cases hFollow
      next next hStep =>
        have hRest := ih hFollow
        have hFirst := movesLeft_of_step hStep
        rw [List.length_cons]
        omega

------------------------------------------------------------
-- Some Move Can Be Made
------------------------------------------------------------

/- A worker that has taken a tuple can go on. -/
theorem exists_advance
    {worker : Worker}
    (hWorker : worker ∈ pool.workers)
    (hBusy : ¬ worker.IsIdle) :
    ∃ move next, pool.step? sweep runner move = some next := by
  rcases List.mem_iff_getElem?.mp hWorker with
    ⟨number, hNumber⟩
  refine ⟨.advance number, ?_⟩
  apply Option.isSome_iff_exists.mp
  unfold step? advance?
  dsimp only
  rw [hNumber]
  cases worker with
  | idle => exact absurd rfl hBusy
  | checking | preparing | simulating | analyzing
  | judging | sending => rfl

/- An idle worker can take a tuple that waits. -/
theorem exists_take
    {number : Nat}
    (hIdle : pool.workers[number]? = some .idle)
    (hWaiting : pool.waiting ≠ []) :
    ∃ move next, pool.step? sweep runner move = some next := by
  rcases List.exists_cons_of_ne_nil hWaiting with
    ⟨tuple, waiting, hCons⟩
  refine ⟨.take number 0, ?_⟩
  apply Option.isSome_iff_exists.mp
  unfold step? take?
  dsimp only
  rw [hIdle, hCons]
  rfl

/- A report that was sent can be received. -/
theorem exists_receive
    (hSent : pool.sent ≠ []) :
    ∃ move next, pool.step? sweep runner move = some next := by
  rcases List.exists_cons_of_ne_nil hSent with
    ⟨report, sent, hCons⟩
  refine ⟨.receive, ?_⟩
  apply Option.isSome_iff_exists.mp
  unfold step? receive?
  dsimp only
  rw [hCons]
  rfl

/- Until all tuples have been reported on, the pool is not
   stuck. -/
theorem exists_step
    (sweep : Sweep)
    (runner : Runner σ)
    (hWorkers : pool.workers ≠ [])
    (hNotDone : ¬ pool.IsDone) :
    ∃ move next, pool.step? sweep runner move = some next := by
  by_cases hIdle : ∀ worker ∈ pool.workers, worker.IsIdle
  · by_cases hSent : pool.sent = []
    · have hWaiting : pool.waiting ≠ [] := by
        intro hWaiting
        apply hNotDone
        exact ⟨hWaiting, hIdle, by rw [hSent]; rfl⟩
      rcases List.exists_cons_of_ne_nil hWorkers with
        ⟨worker, others, hCons⟩
      have hMember : worker ∈ pool.workers := by
        rw [hCons]
        exact List.mem_cons_self
      have hFirst : pool.workers[0]? = some .idle := by
        rw [hCons,
          worker.isIdle_iff.mp (hIdle worker hMember)]
        rfl
      exact exists_take hFirst hWaiting
    · exact exists_receive hSent
  · simp only [not_forall] at hIdle
    rcases hIdle with ⟨worker, hWorker, hBusy⟩
    exact exists_advance hWorker hBusy

/- Nobody leaves the pool. -/
theorem workers_ne_nil_of_turn
    {move : Move}
    {before after : Stage}
    {others : List Stage}
    (hTurn :
      Turn sweep runner move pool next before after others)
    (hWorkers : pool.workers ≠ []) :
    next.workers ≠ [] := by
  rw [← List.length_pos_iff] at hWorkers ⊢
  rwa [hTurn.workers_length]

/- So some moves get all tuples done, whatever the programs
   do. -/
theorem exists_isDone
    (sweep : Sweep)
    (runner : Runner σ)
    (hWorkers : pool.workers ≠ []) :
    ∃ moves final,
      pool.follow? sweep runner moves = some final ∧
        final.IsDone := by
  induction hLeft : pool.movesLeft sweep
    using Nat.strongRecOn generalizing pool with
  | ind left ih =>
      by_cases hDone : pool.IsDone
      · exact ⟨[], pool, rfl, hDone⟩
      · rcases exists_step sweep runner hWorkers hDone with
          ⟨move, next, hStep⟩
        rcases exists_turn hStep with
          ⟨before, after, others, hTurn⟩
        have hLess := movesLeft_of_step hStep
        rw [hLeft] at hLess
        rcases ih _ hLess
            (workers_ne_nil_of_turn hTurn hWorkers) rfl with
          ⟨moves, final, hFollow, hFinal⟩
        refine ⟨move :: moves, final, ?_, hFinal⟩
        simp only [follow?, hStep]
        exact hFollow

/- This includes the pools in which some moves were made
   already. -/
theorem exists_isDone_of_follow
    {moves : List Move}
    (hWorkers : pool.workers ≠ [])
    (hFollow :
      pool.follow? sweep runner moves = some next) :
    ∃ more final,
      pool.follow? sweep runner (moves ++ more) =
          some final ∧
        final.IsDone := by
  have hStaffed : next.workers ≠ [] :=
    follow?_induction (fun pool => pool.workers ≠ [])
      workers_ne_nil_of_turn hFollow hWorkers
  rcases exists_isDone sweep runner hStaffed with
    ⟨more, final, hMore, hDone⟩
  refine ⟨more, final, ?_, hDone⟩
  rw [follow?_append, hFollow]
  exact hMore

end Pool

end LatencySweep
