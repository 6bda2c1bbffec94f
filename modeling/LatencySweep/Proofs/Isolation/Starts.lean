import LatencySweep.Proofs.FileTree.Create
import LatencySweep.Proofs.Isolation.Places

/-
  Worlds in which a sweep is ready.

  Before the first tuple is taken, the output root is there,
  and what stands at the directory of a tuple is what stood
  at its place all along, unless the root itself leads
  through that place. The number of workers does not matter.

  Main declarations:
    * `FileTree.occupant`
    * `Sweep.withWorkers`
    * `Sweep.start_withWorkers`
    * `Sweep.hasRoot_of_start`
    * `Sweep.standing_of_start`
-/

namespace LatencySweep

variable {σ τ : Type}

/- Whether what exists at the place of a path is a directory,
   if there is something. Nothing in front of the place has
   to exist for that. -/
def FileTree.occupant
    (tree : FileTree)
    (p : Path) : Option Bool :=
  (tree.find? (p.place tree.workDir)).map Entry.isDirectory

namespace Sweep

variable {sweep : Sweep} {runner : Runner σ}
variable {w ready : World σ}

------------------------------------------------------------
-- Numbers of Workers
------------------------------------------------------------

/- The sweep with another number of workers. -/
def withWorkers (sweep : Sweep) (workers : Nat) : Sweep :=
  { sweep with concurrency := workers }

theorem IsValid.withWorkers
    (hValid : sweep.IsValid)
    {workers : Nat}
    (hWorkers : 0 < workers) :
    (sweep.withWorkers workers).IsValid := by
  rw [isValid_iff] at hValid ⊢
  rcases hValid with ⟨hAxes, _, hDefect, hCollision⟩
  refine ⟨hAxes, Nat.ne_of_gt hWorkers, hDefect, ?_⟩
  -- workers have no part in the names of directories
  have hSame :
      (sweep.withWorkers workers).collision? =
        sweep.collision? :=
    collision?_congr rfl rfl
  exact hSame.trans hCollision

/- The start differs by a number in the log at most. -/
theorem start_withWorkers
    (hValid : sweep.IsValid)
    {workers : Nat}
    (hWorkers : 0 < workers)
    (runner : Runner σ)
    (w : World σ) :
    ((sweep.withWorkers workers).start runner w).1 =
        (sweep.start runner w).1 ∧
      ((sweep.withWorkers workers).start runner w).2.tree =
        (sweep.start runner w).2.tree ∧
      ((sweep.withWorkers workers).start runner
          w).2.invocations =
        (sweep.start runner w).2.invocations := by
  have hDefect : sweep.defect? = none := hValid
  have hDefect' :
      (sweep.withWorkers workers).defect? = none :=
    hValid.withWorkers hWorkers
  unfold start
  rw [hDefect, hDefect']
  dsimp only
  rcases hRoot : sweep.createRoot w with ⟨e | _, rooted⟩
  · have hRoot' :
        (sweep.withWorkers workers).createRoot w =
          (.error e, rooted) := hRoot
    rw [hRoot']
    exact ⟨rfl, rfl, rfl⟩
  · have hRoot' :
        (sweep.withWorkers workers).createRoot w =
          (.ok (), rooted) := hRoot
    rw [hRoot']
    dsimp only
    rcases hBuild : sweep.build runner rooted with
      ⟨e | _, built⟩
    · have hBuild' :
          (sweep.withWorkers workers).build runner rooted =
            (.error e, built) := hBuild
      rw [hBuild']
      exact ⟨rfl, rfl, rfl⟩
    · have hBuild' :
          (sweep.withWorkers workers).build runner rooted =
            (.ok (), built) := hBuild
      rw [hBuild']
      refine ⟨rfl, rfl, ?_⟩
      rw [World.invocations_log, World.invocations_log]

theorem exists_start_withWorkers
    (hValid : sweep.IsValid)
    {workers : Nat}
    (hWorkers : 0 < workers)
    {started : Except SweepError Unit}
    (hStart : sweep.start runner w = (started, ready)) :
    ∃ ready',
      (sweep.withWorkers workers).start runner w =
          (started, ready') ∧
        ready'.tree = ready.tree ∧
        ready'.invocations = ready.invocations := by
  have hSame := start_withWorkers hValid hWorkers runner w
  rw [hStart] at hSame
  rcases hSame with ⟨hStarted, hTree, hInvocations⟩
  refine
    ⟨((sweep.withWorkers workers).start runner w).2, ?_,
      hTree, hInvocations⟩
  exact Prod.ext hStarted rfl

------------------------------------------------------------
-- Places of a Ready Sweep
------------------------------------------------------------

/- A build leaves the tree alone or to the runner. -/
theorem tree_build_cases
    (sweep : Sweep)
    (runner : Runner σ)
    (w : World σ) :
    (sweep.build runner w).2.tree = w.tree ∨
      (sweep.build runner w).2.tree =
        (w.answer runner sweep.prebuildInvocation).tree := by
  unfold build
  split
  next hPrebuild =>
    right
    dsimp only
    split
    next cause next hCall =>
      exact congrArg (fun r => r.2.tree) hCall.symm
    next outcome next hCall =>
      split
      · exact congrArg (fun r => r.2.tree) hCall.symm
      · exact congrArg (fun r => r.2.tree) hCall.symm
  next => exact Or.inl rfl

/- The output root is there when the sweep is ready. -/
theorem hasRoot_of_start
    (hSpares : runner.Spares sweep)
    (hStart : sweep.start runner w = (.ok (), ready)) :
    ready.tree.HasRoot sweep.outputRoot := by
  rcases start_eq_ok runner hStart with
    ⟨tree, built, _, hCreate, hBuild, rfl⟩
  have hRoot : tree.HasRoot sweep.outputRoot :=
    FileTree.isDirectory_of_createDirectories hCreate
  rw [World.tree_log]
  rcases sweep.tree_build_cases runner
      { w with tree } with
    hSame | hAnswer
  · rw [hBuild] at hSame
    rw [hSame]
    exact hRoot
  · rw [hBuild] at hAnswer
    rw [hAnswer]
    exact hSpares.hasRoot (Or.inl rfl) hRoot

/- What stands at a tuple's directory when the sweep is ready
   depends on what stood at its place before. -/
theorem standing_of_start
    (hSpares : runner.Spares sweep)
    {tuple : Tuple}
    (hTuple : tuple ∈ sweep.grid.tuples)
    {name : String}
    (hChild :
      sweep.outputRoot.IsChild name (sweep.outputDir tuple))
    (hStart : sweep.start runner w = (.ok (), ready)) :
    ready.tree.standing (sweep.outputDir tuple) =
      if (sweep.outputDir tuple).refusal? = none ∧
          name.utf8ByteSize ≤ FileTree.maxName then
        (w.tree.occupant (sweep.outputDir tuple)).or
          (if (sweep.outputDir tuple).place w.tree.workDir ∈
              sweep.outputRoot.stops w.tree.workDir then
            some true
          else none)
      else none := by
  rcases start_eq_ok runner hStart with
    ⟨tree, built, _, hCreate, hBuild, rfl⟩
  have hRoot : tree.HasRoot sweep.outputRoot :=
    FileTree.isDirectory_of_createDirectories hCreate
  have hBuilt :
      built.tree.standing (sweep.outputDir tuple) =
        tree.standing (sweep.outputDir tuple) := by
    rcases sweep.tree_build_cases runner
        { w with tree } with
      hSame | hAnswer
    · rw [hBuild] at hSame
      rw [hSame]
    · rw [hBuild] at hAnswer
      rw [hAnswer]
      exact hSpares.standing (Or.inl rfl) _ hTuple
  have hGrows :=
    FileTree.grows_createDirectories w.tree sweep.outputRoot
  rw [hCreate] at hGrows
  rw [World.tree_log, hBuilt,
    FileTree.standing_child hChild hRoot, hGrows.workDir,
    FileTree.find?_of_createDirectories hCreate,
    Option.map_or, apply_ite (Option.map Entry.isDirectory)]
  rfl

/- Sweeps that find the same at the place of a tuple find the
   same at its directory when they are ready. -/
theorem standing_eq_of_start
    {runner' : Runner τ}
    {w' ready' : World τ}
    (hValid : sweep.IsValid)
    (hChildren : sweep.HasDirectChildren)
    (hSpares : runner.Spares sweep)
    (hSpares' : runner'.Spares sweep)
    {tuple : Tuple}
    (hTuple : tuple ∈ sweep.grid.tuples)
    (hWorkDir : w'.tree.workDir = w.tree.workDir)
    (hOccupant :
      w'.tree.occupant (sweep.outputDir tuple) =
        w.tree.occupant (sweep.outputDir tuple))
    (hStart : sweep.start runner w = (.ok (), ready))
    (hStart' : sweep.start runner' w' = (.ok (), ready')) :
    ready'.tree.standing (sweep.outputDir tuple) =
      ready.tree.standing (sweep.outputDir tuple) := by
  rcases hChildren.exists_isChild hValid hTuple with
    ⟨name, hChild⟩
  rw [standing_of_start hSpares hTuple hChild hStart,
    standing_of_start hSpares' hTuple hChild hStart',
    hWorkDir, hOccupant]

end Sweep

end LatencySweep
