import LatencySweep.Proofs.Pool.Abort
import LatencySweep.Proofs.Pool.InOrder

/-
  A pool of one worker that takes the tuples in order.

  The worker holds at most one tuple, and it sends the
  report on it before it takes the next one. So all that is
  left open by a schedule is when reports are received, and
  what the worker does is told by the tuples that still
  wait, one advance after the other.

  Main declarations:
    * `Plays`
    * `Pool.plays_of_follow`
    * `Plays.map_tuple`
    * `Sweep.RunsInOrder`
    * `Sweep.RunsInOrder.exists_plays`
-/

namespace LatencySweep

variable {σ : Type}
variable {sweep : Sweep} {runner : Runner σ}

------------------------------------------------------------
-- Plays
------------------------------------------------------------

/-
  What a worker does until no tuple waits any more, and the
  reports that it sends. It starts with the tuple that it
  holds, if any.
-/
inductive Plays
    (sweep : Sweep)
    (runner : Runner σ) :
    Worker → List Tuple → Bool → World σ →
      List (Deed σ) → List RunReport → Prop where
  | done {flag w} :
      Plays sweep runner .idle [] flag w [] []
  | take {tuple waiting flag w deeds reports}
      (hRest :
        Plays sweep runner (.checking tuple) waiting flag w
          deeds reports) :
      Plays sweep runner .idle (tuple :: waiting) flag w
        deeds reports
  | advance
      {worker next waiting flag flag' w w' deeds reports}
      (hAdvance :
        Advance sweep runner (.held worker) flag w
          (.held next) flag' w')
      (hRest :
        Plays sweep runner next waiting flag' w' deeds
          reports) :
      Plays sweep runner worker waiting flag w
        ({ worker, before := w, after := w' } :: deeds)
        reports
  | send {report waiting flag w deeds reports}
      (hRest :
        Plays sweep runner .idle waiting flag w deeds
          reports) :
      Plays sweep runner (.sending report) waiting flag w
        ({ worker := .sending report
           before := w
           after := w } :: deeds)
        (report :: reports)

namespace Plays

variable {worker : Worker} {waiting : List Tuple}
variable {flag : Bool} {w : World σ}
variable {deeds : List (Deed σ)} {reports : List RunReport}

/- The worker reports on its own tuple and on all tuples that
   wait, in this order. -/
theorem map_tuple
    (hPlays :
      Plays sweep runner worker waiting flag w deeds
        reports) :
    reports.map RunReport.tuple =
      worker.tuple?.toList ++ waiting := by
  induction hPlays with
  | done => rfl
  | take _ ih => exact ih
  | @advance worker next _ _ _ _ _ _ _ hAdvance _ ih =>
      have hTuple : next.tuple? = worker.tuple? :=
        hAdvance.tuple?_eq
      rw [ih, hTuple]
  | send _ ih => exact congrArg _ ih

/- All that it does is done on one of these tuples. -/
theorem exists_tuple
    (hPlays :
      Plays sweep runner worker waiting flag w deeds
        reports) :
    ∀ deed ∈ deeds,
      ∃ tuple ∈ worker.tuple?.toList ++ waiting,
        deed.worker.tuple? = some tuple := by
  induction hPlays with
  | done => exact nofun
  | take _ ih => exact ih
  | @advance worker next _ _ _ _ _ _ _ hAdvance _ ih =>
      have hTuple : next.tuple? = worker.tuple? :=
        hAdvance.tuple?_eq
      rw [hTuple] at ih
      refine List.forall_mem_cons.mpr ⟨?_, ih⟩
      rcases hAdvance.exists_tuple with ⟨tuple, hOwn⟩
      have hHeld : worker.tuple? = some tuple := hOwn
      rw [hHeld]
      exact ⟨tuple, List.mem_cons_self, rfl⟩
  | @send report _ _ _ _ _ _ ih =>
      refine List.forall_mem_cons.mpr ⟨?_, ?_⟩
      · exact ⟨report.tuple, List.mem_cons_self, rfl⟩
      · intro deed hDeed
        rcases ih deed hDeed with ⟨tuple, hWaits, hTuple⟩
        exact
          ⟨tuple, List.mem_cons_of_mem _ hWaits, hTuple⟩

end Plays

------------------------------------------------------------
-- Schedules of One Worker
------------------------------------------------------------

namespace Pool

/- The only worker has no number but zero. -/
theorem eq_of_getElem?_singleton
    {number : Nat}
    {worker other : Worker}
    (hWorker : [worker][number]? = some other) :
    number = 0 ∧ worker = other := by
  cases number with
  | zero => exact ⟨rfl, Option.some.inj hWorker⟩
  | succ number => cases hWorker

/- In the end there is nothing left to play. -/
theorem plays_of_isDone
    {pool : Pool σ}
    {worker : Worker}
    (hAlone : pool.workers = [worker])
    (hDone : pool.IsDone) :
    Plays sweep runner worker pool.waiting pool.aborted
        pool.world [] [] ∧
      pool.sent = [] := by
  rcases hDone with ⟨hWaiting, hIdle, hSent⟩
  rw [hAlone, List.forall_mem_singleton,
    Worker.isIdle_iff] at hIdle
  rw [hWaiting, hIdle]
  exact ⟨.done, List.isEmpty_iff.mp hSent⟩

/- After a move, there is still one worker. Whatever it goes
   on to play, it plays from before the move, with what it
   has done by it. -/
def PlaysOn
    (sweep : Sweep)
    (runner : Runner σ)
    (pool next : Pool σ)
    (worker : Worker)
    (done : List (Deed σ)) : Prop :=
  ∃ other,
    next.workers = [other] ∧
      ∀ deeds reports,
        Plays sweep runner other next.waiting next.aborted
            next.world deeds reports →
          ∃ all,
            Plays sweep runner worker pool.waiting
                pool.aborted pool.world (done ++ deeds) all ∧
              next.received ++ next.sent ++ reports =
                pool.received ++ pool.sent ++ all

section Moves

variable {pool next : Pool σ} {worker : Worker}
variable {number : Nat}
variable (hAlone : pool.workers = [worker])
include hAlone

theorem playsOn_of_take
    (hTake : pool.take? number 0 = some next) :
    PlaysOn sweep runner pool next worker [] := by
  unfold take? at hTake
  split at hTake
  next tuple hWorker hTuple =>
    rw [hAlone] at hWorker
    rcases eq_of_getElem?_singleton hWorker with ⟨rfl, rfl⟩
    cases hTake
    cases hWaiting : pool.waiting with
    | nil =>
        rw [hWaiting] at hTuple
        cases hTuple
    | cons first waiting =>
        rw [hWaiting] at hTuple
        cases hTuple
        refine
          ⟨.checking tuple, by rw [withWorker, hAlone]; rfl, ?_⟩
        intro deeds reports hPlays
        exact ⟨reports, hWaiting ▸ .take hPlays, rfl⟩
  next => cases hTake

theorem playsOn_of_advance
    (hAdvance :
      pool.advance? sweep runner number = some next) :
    pool.workers[number]? = some worker ∧
      PlaysOn sweep runner pool next worker
        [{ worker, before := pool.world
           after := next.world }] := by
  rcases advance?_cases hAdvance with
    ⟨held, hHeld, -, hMove⟩
  have hWorker := hHeld
  rw [hAlone] at hWorker
  rcases eq_of_getElem?_singleton hWorker with ⟨rfl, rfl⟩
  refine ⟨hHeld, ?_⟩
  rcases hMove with ⟨report, rfl, rfl⟩ | ⟨other, hGoesOn⟩
  · refine
      ⟨.idle, by rw [send, withWorker, hAlone]; rfl, ?_⟩
    intro deeds reports hPlays
    refine ⟨report :: reports, .send hPlays, ?_⟩
    simp [send, withWorker]
  · refine ⟨other, by rw [hGoesOn.workers, hAlone]; rfl, ?_⟩
    intro deeds reports hPlays
    rw [hGoesOn.waiting] at hPlays
    refine ⟨reports, .advance hGoesOn.advance hPlays, ?_⟩
    rw [hGoesOn.sent, hGoesOn.received]

theorem playsOn_of_receive
    (hReceive : pool.receive? = some next) :
    PlaysOn sweep runner pool next worker [] := by
  unfold receive? at hReceive
  split at hReceive
  next => cases hReceive
  next report sent hSent =>
    cases hReceive
    refine ⟨worker, hAlone, ?_⟩
    intro deeds reports hPlays
    refine ⟨reports, hPlays, ?_⟩
    simp [hSent]

/- Every move that is in order lets the worker play on. -/
theorem playsOn_of_step
    {move : Move}
    (hInOrder : move.IsInOrder)
    (hStep : pool.step? sweep runner move = some next) :
    PlaysOn sweep runner pool next worker
      ((pool.mover? move).toList.map fun worker =>
        { worker
          before := pool.world
          after := next.world }) := by
  cases move with
  | take number position =>
      have hFirst : position = 0 := hInOrder
      rw [hFirst] at hStep
      exact playsOn_of_take hAlone hStep
  | advance number =>
      rcases playsOn_of_advance hAlone hStep with
        ⟨hWorker, hPlaysOn⟩
      rw [mover?, hWorker]
      exact hPlaysOn
  | receive => exact playsOn_of_receive hAlone hStep

end Moves

/-
  Whatever moves get a pool of one worker done, they let the
  worker play the tuples that wait, provided that none is
  taken out of order.
-/
theorem plays_of_follow
    {moves : List Move}
    (hInOrder : ∀ move ∈ moves, move.IsInOrder)
    {pool final : Pool σ}
    {worker : Worker}
    (hAlone : pool.workers = [worker])
    (hFollow :
      pool.follow? sweep runner moves = some final)
    (hDone : final.IsDone) :
    ∃ reports,
      Plays sweep runner worker pool.waiting pool.aborted
          pool.world (pool.deeds sweep runner moves)
          reports ∧
        final.received =
          pool.received ++ pool.sent ++ reports := by
  induction moves generalizing pool worker with
  | nil =>
      cases hFollow
      rcases plays_of_isDone hAlone hDone with
        ⟨hPlays, hSent⟩
      refine ⟨[], hPlays, ?_⟩
      rw [hSent, List.append_nil, List.append_nil]
  | cons move moves ih =>
      rw [List.forall_mem_cons] at hInOrder
      unfold follow? at hFollow
      unfold deeds
      cases hStep : pool.step? sweep runner move with
      | none =>
          rw [hStep] at hFollow
          cases hFollow
      | some next =>
          rw [hStep] at hFollow
          rcases playsOn_of_step hAlone hInOrder.1 hStep with
            ⟨other, hOther, hBack⟩
          rcases ih hInOrder.2 hOther hFollow with
            ⟨reports, hPlays, hReceived⟩
          rcases hBack _ _ hPlays with ⟨all, hAll, hSame⟩
          exact ⟨all, hAll, hReceived.trans hSame⟩

end Pool

------------------------------------------------------------
-- Sweeps of One Worker
------------------------------------------------------------

namespace Sweep

/- The sweep returns the summary, and no tuple was taken out
   of order. -/
structure RunsInOrder
    (sweep : Sweep)
    (runner : Runner σ)
    (schedule : List Move)
    (w : World σ)
    (summary : SweepSummary)
    (final : World σ) : Prop where
  inOrder : ∀ move ∈ schedule, move.IsInOrder
  run :
    sweep.runScheduled? runner schedule w =
      some (.ok summary, final)

/- A sweep that has started can be run so. -/
theorem exists_runsInOrder
    (hWorkers : 0 < sweep.concurrency)
    {w ready : World σ}
    (hStart : sweep.start runner w = (.ok (), ready)) :
    ∃ schedule summary final,
      sweep.RunsInOrder runner schedule w summary final := by
  rcases exists_schedule_inOrder hWorkers w with
    ⟨schedule, hInOrder, hRun⟩
  have hResult :
      sweep.runScheduled? runner schedule w =
        some ((sweep.run runner w).1,
          (sweep.run runner w).2) :=
    hRun
  rcases exists_summary_of_start hStart hResult with
    ⟨summary, hSummary⟩
  rw [hSummary] at hResult
  exact ⟨schedule, summary, _, ⟨hInOrder, hResult⟩⟩

/- What the reports and the events in the end are made of, if
   there is one worker. -/
theorem RunsInOrder.exists_plays
    {schedule : List Move}
    {w final : World σ}
    {summary : SweepSummary}
    (hAlone : sweep.concurrency = 1)
    (hRuns :
      sweep.RunsInOrder runner schedule w summary final) :
    ∃ ready,
      sweep.start runner w = (.ok (), ready) ∧
        Plays sweep runner .idle sweep.grid.tuples false
          ready (sweep.deeds runner schedule w)
          summary.reports ∧
        final.events =
          ready.events ++
            (sweep.deeds runner schedule w).flatMap
              Deed.events ++
            [.logged .info summary.toText] := by
  rcases runScheduled?_eq_ok hRuns.run with
    ⟨ready, pool, hStart, hFollow, hDone, hReports, rfl⟩
  have hDeeds :
      sweep.deeds runner schedule w =
        (Pool.start sweep ready).deeds sweep runner
          schedule := by
    rw [deeds, hStart]
  have hWorkers :
      (Pool.start sweep ready).workers = [.idle] := by
    rw [Pool.start, hAlone]
    rfl
  rcases Pool.plays_of_follow hRuns.inOrder hWorkers hFollow
      hDone with ⟨reports, hPlays, hReceived⟩
  have hSame : summary.reports = reports := by
    rw [hReports, hReceived]
    exact inGridOrder_of_map_tuple hPlays.map_tuple
  have hEvents := Pool.events_of_deeds hFollow
  rw [hSame, hDeeds]
  exact
    ⟨ready, hStart, hPlays, congrArg (· ++ [_]) hEvents⟩

/- The reports follow the grid. -/
theorem RunsInOrder.map_tuple
    {schedule : List Move}
    {w final : World σ}
    {summary : SweepSummary}
    (hAlone : sweep.concurrency = 1)
    (hRuns :
      sweep.RunsInOrder runner schedule w summary final) :
    summary.reports.map RunReport.tuple =
      sweep.grid.tuples := by
  rcases hRuns.exists_plays hAlone with ⟨_, _, hPlays, _⟩
  exact hPlays.map_tuple

end Sweep

end LatencySweep
