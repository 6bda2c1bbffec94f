import LatencySweep.Proofs.FileTree.Create
import LatencySweep.Proofs.Pool.Delivery
import LatencySweep.Proofs.Pool.Events
import LatencySweep.Proofs.Pool.Progress
import LatencySweep.Proofs.Summary.Status
import LatencySweep.Proofs.Sweep.Validity

/-
  The start alone decides whether there is a summary.

  A sweep that cannot start has created no more than its
  output root and called no more than the build of its
  simulator. A sweep that can start comes to a summary,
  whatever the programs do from then on and however the
  workers are timed.

  Main declarations:
    * `Sweep.CanStart`
    * `Sweep.OnlyBuilds`
    * `Sweep.FailsToStart`
    * `Sweep.start_cases`
    * `Sweep.ComesToSummary`
    * `Sweep.start_decides`
-/

namespace LatencySweep

variable {σ : Type}

namespace Sweep

------------------------------------------------------------
-- Whether a Sweep Can Start
------------------------------------------------------------

/- The world once the output root is created, as far as this
   succeeds. Only the file tree may have changed. -/
def rooted (sweep : Sweep) (w : World σ) : World σ :=
  { w with
    tree := (w.tree.createDirectories sweep.outputRoot).2 }

/- What comes of building the simulator then. -/
def prebuildAnswer
    (sweep : Sweep)
    (runner : Runner σ)
    (w : World σ) : Answer σ :=
  (sweep.rooted w).answer runner sweep.prebuildInvocation

/- The sweep is well-formed, its output root can be created,
   and its simulator is built if this is wanted. -/
structure CanStart
    (sweep : Sweep)
    (runner : Runner σ)
    (w : World σ) : Prop where
  valid : sweep.IsValid
  created :
    (w.tree.createDirectories sweep.outputRoot).1 = .ok ()
  built :
    sweep.simulator.prebuild = true →
      IsSuccess (sweep.prebuildAnswer runner w).result

/- The output root is created and the simulator is called for
   the build, and nothing else is done. -/
structure OnlyBuilds
    (sweep : Sweep)
    (runner : Runner σ)
    (w final : World σ) : Prop where
  valid : sweep.IsValid
  prebuild : sweep.simulator.prebuild = true
  created :
    (w.tree.createDirectories sweep.outputRoot).1 = .ok ()
  grows :
    FileTree.Grows
      (sweep.outputRoot.stops w.tree.workDir) w.tree
      (sweep.rooted w).tree
  invocations :
    final.invocations =
      w.invocations ++
        [{ program := sweep.simulator.runner
           args := []
           logPath := sweep.outputRoot / "prebuild.txt" }]
  events :
    w.Adds final fun event => ∀ dir, event ≠ .created dir
  tree :
    final.tree = (sweep.prebuildAnswer runner w).tree
  programs :
    final.programs =
      (sweep.prebuildAnswer runner w).programs

/- Why a sweep did not start, and what this leaves behind. -/
inductive FailsToStart
    (sweep : Sweep)
    (runner : Runner σ)
    (w : World σ) : SweepError → World σ → Prop where
  | defect {cause}
      (hDefect : sweep.defect? = some cause) :
      FailsToStart sweep runner w (.defect cause) w
  | outputRoot {cause}
      (hValid : sweep.IsValid)
      (hCreate :
        (w.tree.createDirectories sweep.outputRoot).1 =
          .error cause)
      (hGrows :
        FileTree.Grows
          (sweep.outputRoot.stops w.tree.workDir) w.tree
          (sweep.rooted w).tree) :
      FailsToStart sweep runner w
        (.outputRoot sweep.outputRoot cause)
        (sweep.rooted w)
  | prebuildLaunch {cause final}
      (hBuilds : sweep.OnlyBuilds runner w final)
      (hResult :
        (sweep.prebuildAnswer runner w).result =
          .error cause) :
      FailsToStart sweep runner w (.prebuildLaunch cause)
        final
  | prebuild {outcome final}
      (hBuilds : sweep.OnlyBuilds runner w final)
      (hResult :
        (sweep.prebuildAnswer runner w).result =
          .ok outcome)
      (hFailed : outcome.exitCode ≠ some 0) :
      FailsToStart sweep runner w
        (.prebuild outcome
          (sweep.outputRoot / "prebuild.txt"))
        final

variable {sweep : Sweep} {runner : Runner σ}
variable {w : World σ}

/- A sweep that did not start is one that cannot. -/
theorem FailsToStart.not_canStart
    {e : SweepError}
    {final : World σ}
    (hFails : sweep.FailsToStart runner w e final) :
    ¬ sweep.CanStart runner w := by
  intro hCanStart
  cases hFails with
  | defect hDefect =>
      have hValid : sweep.defect? = none := hCanStart.valid
      rw [hValid] at hDefect
      cases hDefect
  | outputRoot hValid hCreate hGrows =>
      rw [hCanStart.created] at hCreate
      cases hCreate
  | prebuildLaunch hBuilds hResult =>
      rcases hCanStart.built hBuilds.prebuild with
        ⟨outcome, hOutcome, -⟩
      rw [hResult] at hOutcome
      cases hOutcome
  | prebuild hBuilds hResult hFailed =>
      rcases hCanStart.built hBuilds.prebuild with
        ⟨outcome, hOutcome, hExit⟩
      rw [hResult] at hOutcome
      cases hOutcome
      exact hFailed hExit

------------------------------------------------------------
-- Starting
------------------------------------------------------------

theorem createRoot_eq (sweep : Sweep) (w : World σ) :
    sweep.createRoot w =
      ((w.tree.createDirectories sweep.outputRoot).1.mapError
          (.outputRoot sweep.outputRoot),
        sweep.rooted w) := by
  unfold createRoot rooted
  dsimp only
  rcases w.tree.createDirectories sweep.outputRoot with
    ⟨cause | _, tree⟩
  · rfl
  · rfl

/- The world once the simulator was called for the build. -/
def called
    (sweep : Sweep)
    (runner : Runner σ)
    (w : World σ) : World σ :=
  let invocation := sweep.prebuildInvocation
  (((sweep.rooted w).log .info
    s!"Building the simulator: {invocation}").call runner
      invocation).2

/- What the answer to this call says about the build. -/
def verdictOnBuild
    (sweep : Sweep) :
    Except OsError Outcome → Except SweepError Unit
  | .error cause => .error (.prebuildLaunch cause)
  | .ok outcome =>
      if outcome.succeeded then .ok ()
      else
        .error
          (.prebuild outcome
            (sweep.outputRoot / "prebuild.txt"))

theorem verdictOnBuild_cases
    (sweep : Sweep)
    (result : Except OsError Outcome) :
    (IsSuccess result ∧
        sweep.verdictOnBuild result = .ok ()) ∨
      (∃ cause,
        result = .error cause ∧
          sweep.verdictOnBuild result =
            .error (.prebuildLaunch cause)) ∨
      ∃ outcome,
        result = .ok outcome ∧
          outcome.exitCode ≠ some 0 ∧
          sweep.verdictOnBuild result =
            .error
              (.prebuild outcome
                (sweep.outputRoot / "prebuild.txt")) := by
  cases result with
  | error cause => exact .inr (.inl ⟨cause, rfl, rfl⟩)
  | ok outcome =>
      have hSucceeded := @Outcome.succeeded_iff outcome
      by_cases hExit : outcome.exitCode = some 0
      · left
        refine ⟨⟨outcome, rfl, hExit⟩, ?_⟩
        exact if_pos (hSucceeded.mpr hExit)
      · right
        right
        refine ⟨outcome, rfl, hExit, ?_⟩
        exact if_neg (mt hSucceeded.mp hExit)

theorem build_rooted
    (hPrebuild : sweep.simulator.prebuild = true) :
    sweep.build runner (sweep.rooted w) =
      (sweep.verdictOnBuild
          (sweep.prebuildAnswer runner w).result,
        sweep.called runner w) := by
  let told :=
    (sweep.rooted w).log .info
      s!"Building the simulator: {sweep.prebuildInvocation}"
  have hResult :
      (told.call runner sweep.prebuildInvocation).1 =
        (sweep.prebuildAnswer runner w).result := rfl
  unfold build called
  rw [if_pos hPrebuild, ← hResult]
  dsimp only
  rcases told.call runner sweep.prebuildInvocation with
    ⟨cause | outcome, next⟩
  · rfl
  · dsimp only [verdictOnBuild]
    split
    · rfl
    · rfl

/- The call is all that the world has seen then. -/
theorem onlyBuilds_called
    (runner : Runner σ)
    (hValid : sweep.IsValid)
    (hPrebuild : sweep.simulator.prebuild = true)
    (hCreate :
      (w.tree.createDirectories sweep.outputRoot).1 =
        .ok ()) :
    sweep.OnlyBuilds runner w (sweep.called runner w) where
  valid := hValid
  prebuild := hPrebuild
  created := hCreate
  grows := FileTree.grows_createDirectories _ _
  invocations := by
    unfold called
    rw [World.invocations_call, World.invocations_log]
    rfl
  events := by
    unfold called
    exact
      .trans (.log (sweep.rooted w) nofun)
        (.call _ runner _ nofun fun _ _ => nofun)
  tree := rfl
  programs := rfl

/- Once there is an output root, the build decides. -/
theorem start_of_created
    (runner : Runner σ)
    (hValid : sweep.IsValid)
    (hCreate :
      (w.tree.createDirectories sweep.outputRoot).1 =
        .ok ()) :
    (sweep.start runner w).1 =
        (sweep.build runner (sweep.rooted w)).1 ∧
      ∀ e,
        (sweep.start runner w).1 = .error e →
          (sweep.start runner w).2 =
            (sweep.build runner (sweep.rooted w)).2 := by
  have hDefect : sweep.defect? = none := hValid
  unfold start
  rw [createRoot_eq, hDefect, hCreate]
  dsimp only [Except.mapError]
  rcases sweep.build runner (sweep.rooted w) with
    ⟨e | _, next⟩
  · exact ⟨rfl, fun _ _ => rfl⟩
  · exact ⟨rfl, nofun⟩

/- A sweep that has its output root starts unless the build
   fails. -/
theorem start_cases_of_created
    (hValid : sweep.IsValid)
    (hCreate :
      (w.tree.createDirectories sweep.outputRoot).1 =
        .ok ()) :
    (sweep.CanStart runner w ∧
        (sweep.start runner w).1 = .ok ()) ∨
      ∃ e,
        (sweep.start runner w).1 = .error e ∧
          sweep.FailsToStart runner w e
            (sweep.start runner w).2 := by
  rcases start_of_created runner hValid hCreate with
    ⟨hVerdict, hLeft⟩
  by_cases hPrebuild : sweep.simulator.prebuild = true
  · have hBuilds :=
      onlyBuilds_called runner hValid hPrebuild hCreate
    rw [build_rooted hPrebuild] at hVerdict hLeft
    rcases sweep.verdictOnBuild_cases
        (sweep.prebuildAnswer runner w).result with
      ⟨hSuccess, hOk⟩ | ⟨cause, hResult, hError⟩ |
        ⟨outcome, hResult, hFailed, hError⟩
    · left
      exact
        ⟨{ valid := hValid
           created := hCreate
           built := fun _ => hSuccess },
          hVerdict.trans hOk⟩
    · right
      refine ⟨_, hVerdict.trans hError, ?_⟩
      rw [hLeft _ (hVerdict.trans hError)]
      exact .prebuildLaunch hBuilds hResult
    · right
      refine ⟨_, hVerdict.trans hError, ?_⟩
      rw [hLeft _ (hVerdict.trans hError)]
      exact .prebuild hBuilds hResult hFailed
  · left
    refine
      ⟨{ valid := hValid
         created := hCreate
         built := fun hBuild => absurd hBuild hPrebuild },
        hVerdict.trans ?_⟩
    rw [build, if_neg hPrebuild]

/- A sweep starts if it can, and otherwise says why not. -/
theorem start_cases
    (sweep : Sweep)
    (runner : Runner σ)
    (w : World σ) :
    (sweep.CanStart runner w ∧
        (sweep.start runner w).1 = .ok ()) ∨
      ∃ e,
        (sweep.start runner w).1 = .error e ∧
          sweep.FailsToStart runner w e
            (sweep.start runner w).2 := by
  cases hDefect : sweep.defect? with
  | some cause =>
      right
      unfold start
      rw [hDefect]
      exact ⟨_, rfl, .defect hDefect⟩
  | none =>
      cases hCreate :
          (w.tree.createDirectories sweep.outputRoot).1 with
      | error cause =>
          right
          unfold start
          rw [createRoot_eq, hDefect, hCreate]
          exact
            ⟨_, rfl,
              .outputRoot hDefect hCreate
                (FileTree.grows_createDirectories _ _)⟩
      | ok _ => exact start_cases_of_created hDefect hCreate

------------------------------------------------------------
-- Runs
------------------------------------------------------------

/- However the workers are timed, all tuples get done and
   there is a summary. -/
structure ComesToSummary
    (sweep : Sweep)
    (runner : Runner σ)
    (w ready : World σ) : Prop where
  inOrder :
    ∃ summary final,
      sweep.run runner w = (.ok summary, final)
  start : sweep.start runner w = (.ok (), ready)
  summary :
    ∀ {schedule result final},
      sweep.runScheduled? runner schedule w =
          some (result, final) →
        ∃ summary, result = .ok summary
  bounded :
    ∀ {moves pool},
      (Pool.start sweep ready).follow? sweep runner moves =
          some pool →
        moves.length ≤ sweep.grid.size * sweep.movesPerTuple
  completed :
    ∀ {moves pool},
      (Pool.start sweep ready).follow? sweep runner moves =
          some pool →
        ∃ more summary final,
          sweep.runScheduled? runner (moves ++ more) w =
            some (.ok summary, final)

/- What holds of a sweep before anything is known about it:
   that it fails does not depend on the workers, a sweep that
   fails has failed to start, and one that can start does not
   fail. -/
structure StartDecides
    (sweep : Sweep)
    (runner : Runner σ)
    (w : World σ) : Prop where
  untimed :
    ∀ schedule e final,
      sweep.runScheduled? runner schedule w =
          some (.error e, final) ↔
        sweep.run runner w = (.error e, final)
  fails :
    ∀ e final,
      sweep.run runner w = (.error e, final) →
        sweep.FailsToStart runner w e final
  succeeds :
    sweep.CanStart runner w →
      ∃ ready, sweep.ComesToSummary runner w ready

/- A run fails in the way that the start does. -/
theorem run_eq_error_iff
    {e : SweepError}
    {final : World σ} :
    sweep.run runner w = (.error e, final) ↔
      sweep.start runner w = (.error e, final) := by
  unfold run
  rcases sweep.start runner w with ⟨e' | _, ready⟩
  · simp
  · simp

/- The workers of a valid sweep get all its tuples done. -/
theorem comesToSummary_of_start
    {ready : World σ}
    (hValid : sweep.IsValid)
    (hStart : sweep.start runner w = (.ok (), ready)) :
    sweep.ComesToSummary runner w ready where
  inOrder := by
    unfold run
    rw [hStart]
    exact ⟨_, _, rfl⟩
  start := hStart
  summary := exists_summary_of_start hStart
  bounded := by
    intro moves pool hFollow
    have hMoves := Pool.length_le_of_follow hFollow
    rw [Pool.movesLeft_start, Grid.length_tuples] at hMoves
    exact (Nat.le_add_right _ _).trans hMoves
  completed := by
    intro moves pool hFollow
    have hWorkers : (Pool.start sweep ready).workers ≠ [] := by
      rw [← List.length_pos_iff, Pool.start,
        List.length_replicate]
      exact hValid.concurrency_pos
    rcases Pool.exists_isDone_of_follow hWorkers hFollow with
      ⟨more, final, hMore, hDone⟩
    have hRun :
        sweep.runScheduled? runner (moves ++ more) w =
          some
            (.ok { reports := inGridOrder final.received },
              (finish (inGridOrder final.received)
                final.world).2) := by
      unfold runScheduled?
      rw [hStart]
      dsimp only
      rw [hMore]
      exact if_pos hDone
    exact ⟨more, _, _, hRun⟩

/- Whether there is a summary is decided by the start alone,
   whatever the programs do. -/
theorem start_decides
    (sweep : Sweep)
    (runner : Runner σ)
    (w : World σ) :
    sweep.StartDecides runner w where
  untimed := by
    intro schedule e final
    rw [runScheduled?_eq_error_iff, run_eq_error_iff]
  fails := by
    intro e final hRun
    rw [run_eq_error_iff] at hRun
    rcases start_cases sweep runner w with
      ⟨-, hOk⟩ | ⟨e', hError, hFails⟩
    · rw [hRun] at hOk
      cases hOk
    · rw [hRun] at hError hFails
      cases hError
      exact hFails
  succeeds := by
    intro hCanStart
    rcases start_cases sweep runner w with
      ⟨-, hOk⟩ | ⟨e, -, hFails⟩
    · exact
        ⟨_, comesToSummary_of_start hCanStart.valid
          (Prod.ext hOk rfl)⟩
    · exact absurd hCanStart hFails.not_canStart

/- A sweep whose simulator has to be built can start. -/
example :
    let sweep : Sweep :=
      { name := "single"
        axes :=
          [ { name := "rate"
              flag := "rate"
              token := "rate"
              values := [.integer 1] } ]
        concurrency := 1
        simulator :=
          { runner := "ns3"
            scenario := "relay"
            prebuild := true } }
    sweep.CanStart (Script.runner [])
      (World.start FileTree.empty ()) :=
  { valid := by decide +kernel
    created := by decide +kernel
    built := fun _ => ⟨⟨some 0, ⟨0⟩, _⟩, rfl, rfl⟩ }

end Sweep

end LatencySweep
