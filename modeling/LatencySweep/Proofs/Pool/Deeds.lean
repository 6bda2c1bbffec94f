import LatencySweep.Proofs.Pool.Events
import LatencySweep.Proofs.Pool.Stages

/-
  What each worker has done, move by move.

  A deed is one move of a worker: what the worker was about
  to do, and the world before and after. The deeds of a pool
  account for all events, and what is said of deeds and
  stages together is proved advance by advance.

  Main declarations:
    * `Deed`
    * `Pool.deeds`
    * `Pool.deeds_induction`
    * `Pool.events_of_deeds`
-/

namespace LatencySweep

variable {σ : Type}

------------------------------------------------------------
-- Held Tuples
------------------------------------------------------------

/- A worker holds the tuple. -/
def Stage.isHeld (stage : Stage) : Bool :=
  stage.worker?.isSome

/- There are no more held tuples than workers. -/
theorem Pool.countP_isHeld_le (pool : Pool σ) :
    pool.stages.countP Stage.isHeld ≤
      pool.workers.length := by
  have hWaiting :
      (pool.waiting.map Stage.waiting).countP
        Stage.isHeld = 0 := by
    simp [List.countP_map, Function.comp_def, Stage.isHeld,
      Stage.worker?]
  have hReported :
      ((pool.sent ++ pool.received).map
        Stage.reported).countP Stage.isHeld = 0 := by
    simp [List.countP_map, Function.comp_def, Stage.isHeld,
      Stage.worker?]
  have hHeld :
      ((busy pool.workers).map Stage.held).countP
          Stage.isHeld ≤
        (busy pool.workers).length :=
    Nat.le_trans List.countP_le_length
      (Nat.le_of_eq (List.length_map _))
  rw [stages, List.countP_append, List.countP_append,
    hWaiting, hReported]
  exact Nat.le_trans (by simpa using hHeld)
    (length_busy_le pool.workers)

------------------------------------------------------------
-- Deeds
------------------------------------------------------------

/- A worker before one of its moves, and the world before
   and after the move. -/
structure Deed (σ : Type) where
  worker : Worker
  before : World σ
  after : World σ

namespace Deed

/- The events that a move has added. -/
def events (deed : Deed σ) : List Event :=
  deed.after.events.drop deed.before.events.length

/- The move that a stage is left by, if a worker makes it. -/
def ofStage
    (stage : Stage)
    (w next : World σ) : List (Deed σ) :=
  stage.worker?.toList.map fun worker =>
    { worker, before := w, after := next }

theorem mem_ofStage_iff
    {stage : Stage}
    {w next : World σ}
    {deed : Deed σ} :
    deed ∈ ofStage stage w next ↔
      stage = .held deed.worker ∧
        deed.before = w ∧ deed.after = next := by
  constructor
  · intro hDeed
    rcases List.mem_map.mp hDeed with ⟨worker, hWorker, rfl⟩
    cases stage with
    | waiting tuple => cases hWorker
    | reported report => cases hWorker
    | held held =>
        rw [List.mem_singleton.mp hWorker]
        exact ⟨rfl, rfl, rfl⟩
  · rintro ⟨rfl, rfl, rfl⟩
    exact List.mem_cons_self

/- A tuple that no worker holds adds no deed. -/
theorem append_ofStage
    {stage : Stage}
    (past : List (Deed σ))
    (w next : World σ)
    (hFree : stage.worker? = none) :
    past ++ ofStage stage w next = past := by
  simp [ofStage, hFree]

end Deed

namespace Pool

/- The deeds of all workers under a schedule, in order. -/
def deeds
    (sweep : Sweep)
    (runner : Runner σ) :
    List Move → Pool σ → List (Deed σ)
  | [], _ => []
  | move :: moves, pool =>
      match pool.step? sweep runner move with
      | none => []
      | some next =>
          (pool.mover? move).toList.map (fun worker =>
              { worker
                before := pool.world
                after := next.world }) ++
            deeds sweep runner moves next

variable {sweep : Sweep} {runner : Runner σ}

------------------------------------------------------------
-- Induction on Advances
------------------------------------------------------------

/-
  What is said of the deeds so far, of the stages in any
  order, of the abort flag and of the world holds throughout
  if every advance keeps it. No more tuples are held at a
  time than there are workers.
-/
theorem deeds_induction
    (Holds :
      List (Deed σ) → List Stage → Bool → World σ → Prop)
    (hPerm :
      ∀ {past stages others flag w},
        List.Perm stages others →
        Holds past stages flag w →
        Holds past others flag w)
    {limit : Nat}
    (hAdvance :
      ∀ {past before others flag w after flag' w'},
        Advance sweep runner before flag w after flag' w' →
        List.countP Stage.isHeld (before :: others) ≤
          limit →
        Holds past (before :: others) flag w →
        Holds (past ++ Deed.ofStage before w w')
          (after :: others) flag' w')
    {moves : List Move}
    (past : List (Deed σ))
    {pool final : Pool σ}
    (hFollow :
      pool.follow? sweep runner moves = some final)
    (hLimit : pool.workers.length = limit)
    (hPool :
      Holds past pool.stages pool.aborted pool.world) :
    Holds (past ++ pool.deeds sweep runner moves)
      final.stages final.aborted final.world := by
  induction moves generalizing past pool with
  | nil =>
      cases hFollow
      rw [deeds, List.append_nil]
      exact hPool
  | cons move moves ih =>
      unfold follow? at hFollow
      unfold deeds
      cases hStep : pool.step? sweep runner move with
      | none =>
          rw [hStep] at hFollow
          cases hFollow
      | some next =>
          rw [hStep] at hFollow
          rcases exists_turn hStep with
            ⟨before, after, others, hTurn⟩
          dsimp only
          rw [hTurn.mover, ← List.append_assoc]
          apply ih _ hFollow
          · exact hTurn.workers_length.trans hLimit
          · apply hPerm hTurn.stages_after.symm
            apply hAdvance hTurn.advance
            · rw [← hTurn.stages_before.countP_eq, ← hLimit]
              exact countP_isHeld_le pool
            · exact hPerm hTurn.stages_before hPool

/- Every move of a schedule is an advance. -/
theorem forall_deeds
    {Holds : Deed σ → Prop}
    (hAdvance :
      ∀ {worker flag w after flag' w'},
        Advance sweep runner (.held worker) flag w after
            flag' w' →
          Holds { worker, before := w, after := w' })
    {moves : List Move}
    {pool final : Pool σ}
    (hFollow :
      pool.follow? sweep runner moves = some final) :
    ∀ deed ∈ pool.deeds sweep runner moves, Holds deed := by
  refine deeds_induction
    (fun past _ _ _ => ∀ deed ∈ past, Holds deed)
    (fun _ hPast => hPast) ?_ [] hFollow rfl nofun
  intro past before others flag w after flag' w' hStep _ hPast
  refine List.forall_mem_append.mpr ⟨hPast, ?_⟩
  intro deed hDeed
  rcases Deed.mem_ofStage_iff.mp hDeed with ⟨rfl, rfl, rfl⟩
  exact hAdvance hStep

end Pool

------------------------------------------------------------
-- Accounts
------------------------------------------------------------

/- The events that were added are those behind the ones that
   there were before. -/
theorem World.Adds.events_eq
    {Holds : Event → Prop}
    {w next : World σ}
    (hAdds : w.Adds next Holds) :
    next.events =
      w.events ++ next.events.drop w.events.length := by
  rcases hAdds with ⟨added, hEvents, _⟩
  rw [hEvents, List.drop_left]

/- Unless a report is judged, an advance does not say that
   the sweep is aborted. -/
theorem Advance.adds
    {sweep : Sweep}
    {runner : Runner σ}
    {before after : Stage}
    {flag flag' : Bool}
    {w w' : World σ}
    (hAdvance :
      Advance sweep runner before flag w after flag' w')
    (hUnjudged : ∀ report, before ≠ .held (.judging report)) :
    w.Adds w' runner.Owns := by
  cases hAdvance with
  | take | skip | proceed | conclude | send | receive =>
      exact .refl w _
  | alarm | judge => exact absurd rfl (hUnjudged _)
  | @prepare tuple dir flag w next hPrepare =>
      have hAdds := World.adds_prepare runner sweep tuple w
      rwa [hPrepare] at hAdds
  | @refuse tuple e flag w next hPrepare =>
      have hAdds := World.adds_prepare runner sweep tuple w
      rw [hPrepare] at hAdds
      exact hAdds.trans
        (World.adds_logSimulator runner _ _ _)
  | @simulate tuple dir outcome flag w next hSimulate =>
      have hAdds :=
        World.adds_launch runner
          (sweep.simulatorInvocation tuple dir) w
      rw [← Sweep.simulate, hSimulate] at hAdds
      exact hAdds.trans
        (World.adds_logSimulator runner _ _ _)
  | @misfire tuple dir e flag w next hSimulate =>
      have hAdds :=
        World.adds_launch runner
          (sweep.simulatorInvocation tuple dir) w
      rw [← Sweep.simulate, hSimulate] at hAdds
      exact hAdds.trans
        (World.adds_logSimulator runner _ _ _)
  | @analyze tuple _ _ step _ _ flag w next hRun =>
      have hAdds :=
        World.adds_run runner step (sweep.outputDir tuple) w
      rwa [hRun] at hAdds

/- The deed of an advance accounts for its events. -/
theorem Advance.events_eq
    {sweep : Sweep}
    {runner : Runner σ}
    {before after : Stage}
    {flag flag' : Bool}
    {w w' : World σ}
    (hAdvance :
      Advance sweep runner before flag w after flag' w') :
    w'.events =
      w.events ++
        (Deed.ofStage before w w').flatMap Deed.events := by
  cases before with
  | waiting tuple =>
      cases hAdvance
      exact (List.append_nil _).symm
  | reported report =>
      cases hAdvance
      exact (List.append_nil _).symm
  | held worker =>
      have hAdds : ∃ Holds, w.Adds w' Holds := by
        by_cases hJudging :
            ∃ report, worker = .judging report
        · rcases hJudging with ⟨report, rfl⟩
          cases hAdvance with
          | alarm => exact ⟨fun _ => True, .log w trivial⟩
          | judge => exact ⟨fun _ => True, .refl w _⟩
        · have hUnjudged (report : RunReport) :
              Stage.held worker ≠
                .held (.judging report) := by
            intro hSame
            exact hJudging ⟨report, Stage.held.inj hSame⟩
          exact ⟨_, hAdvance.adds hUnjudged⟩
      rcases hAdds with ⟨Holds, hAdds⟩
      simpa [Deed.ofStage, Stage.worker?, Deed.events]
        using hAdds.events_eq

namespace Pool

variable {sweep : Sweep} {runner : Runner σ}

/- The events of a pool are those of its deeds. -/
theorem events_of_deeds
    {moves : List Move}
    {pool final : Pool σ}
    (hFollow :
      pool.follow? sweep runner moves = some final) :
    final.world.events =
      pool.world.events ++
        (pool.deeds sweep runner moves).flatMap
          Deed.events := by
  refine deeds_induction
    (fun past _ _ w =>
      w.events =
        pool.world.events ++ past.flatMap Deed.events)
    (fun _ hEvents => hEvents) ?_ [] hFollow rfl (by simp)
  intro past before others flag w after flag' w' hAdvance _
    hEvents
  rw [hAdvance.events_eq, hEvents, List.flatMap_append,
    List.append_assoc]

end Pool

end LatencySweep
