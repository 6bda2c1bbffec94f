import LatencySweep.Host.Script
import LatencySweep.Proofs.FileTree.Write
import LatencySweep.Proofs.Isolation.Starts
import LatencySweep.Proofs.Pool.Deeds

/-
  Directories in the course of a sweep.

  A sweep removes no directory, and if the programs that it
  calls do not either, every directory is there from the
  move on by which it was created.

  Main declarations:
    * `Runner.KeepsDirectories`
    * `Sweep.keepsDirectories_start`
    * `Advance.keepsDirectories`
    * `IsTimeline`
    * `Pool.isTimeline_of_follow`
-/

namespace LatencySweep

variable {σ : Type}

------------------------------------------------------------
-- Runners
------------------------------------------------------------

/- Whatever it is called for, the runner removes no
   directory. A program does not change the working
   directory of the one who calls it. -/
def Runner.KeepsDirectories (runner : Runner σ) : Prop :=
  ∀ invocation (tree : FileTree) programs,
    tree.KeepsDirectories
      (runner.run invocation tree programs).tree

namespace Script

/- Writing files removes no directory. -/
theorem keepsDirectories_writeFiles
    (dir : Path)
    (files : List (String × Bytes))
    (tree : FileTree) :
    tree.KeepsDirectories (writeFiles dir files tree) := by
  induction files generalizing tree with
  | nil => exact FileTree.keepsDirectories_refl tree
  | cons file files ih =>
      unfold writeFiles
      split
      next next hWrite =>
        exact
          (FileTree.writes_of_write
            hWrite).keepsDirectories.trans (ih next)
      next => exact ih tree

/- So a script does not. -/
theorem keepsDirectories_runner (rules : List Rule) :
    (runner rules).KeepsDirectories :=
  fun _ tree _ => keepsDirectories_writeFiles _ _ tree

end Script

variable {sweep : Sweep} {runner : Runner σ}

------------------------------------------------------------
-- Starts
------------------------------------------------------------

theorem FileTree.Grows.keepsDirectories
    {places : List Location}
    {tree next : FileTree}
    (hGrows : Grows places tree next) :
    tree.KeepsDirectories next := by
  refine { workDir := hGrows.workDir, directories := ?_ }
  intro place hFind
  rcases hGrows.cases place with hSame | ⟨hNone, -⟩
  · rw [hSame]
    exact hFind
  · rw [hFind] at hNone
    cases hNone

namespace Sweep

theorem keepsDirectories_build
    (hKeeps : runner.KeepsDirectories)
    (sweep : Sweep)
    (w : World σ) :
    w.tree.KeepsDirectories
      (sweep.build runner w).2.tree := by
  rcases sweep.tree_build_cases runner w with
    hSame | hAnswer
  · rw [hSame]
    exact FileTree.keepsDirectories_refl _
  · rw [hAnswer]
    exact hKeeps _ _ _

/- When the sweep is ready, all directories are there that
   were there before, and so is the output root. -/
theorem keepsDirectories_start
    {w ready : World σ}
    (hKeeps : runner.KeepsDirectories)
    (hStart : sweep.start runner w = (.ok (), ready)) :
    w.tree.KeepsDirectories ready.tree ∧
      ready.tree.HasRoot sweep.outputRoot := by
  rcases start_eq_ok runner hStart with
    ⟨tree, built, -, hCreate, hBuild, rfl⟩
  have hGrows :=
    FileTree.grows_createDirectories w.tree sweep.outputRoot
  rw [hCreate] at hGrows
  have hBuilt :=
    keepsDirectories_build hKeeps sweep { w with tree }
  rw [hBuild] at hBuilt
  refine ⟨hGrows.keepsDirectories.trans hBuilt, ?_⟩
  have hRoot :=
    FileTree.isDirectory_of_createDirectories hCreate
  exact hRoot.imp_right hBuilt.isDirectory

end Sweep

------------------------------------------------------------
-- Advances
------------------------------------------------------------

theorem Sweep.keepsDirectories_prepare
    (sweep : Sweep)
    (tuple : Tuple)
    (w : World σ) :
    w.tree.KeepsDirectories
      (sweep.prepare tuple w).2.tree := by
  rcases (sweep.prepared tuple w).tree_cases with
    hSame | hCreates
  · rw [hSame]
    exact FileTree.keepsDirectories_refl _
  · exact hCreates.extends.keepsDirectories

/- No advance removes a directory. -/
theorem Advance.keepsDirectories
    {before after : Stage}
    {flag flag' : Bool}
    {w w' : World σ}
    (hKeeps : runner.KeepsDirectories)
    (hAdvance :
      Advance sweep runner before flag w after flag' w') :
    w.tree.KeepsDirectories w'.tree := by
  cases hAdvance with
  | take | skip | proceed | conclude | alarm | judge | send
  | receive => exact FileTree.keepsDirectories_refl _
  | @prepare tuple _ _ _ _ hPrepare =>
      have hPrepared := sweep.keepsDirectories_prepare tuple w
      rwa [hPrepare] at hPrepared
  | @refuse tuple _ _ _ _ hPrepare =>
      have hPrepared := sweep.keepsDirectories_prepare tuple w
      rw [hPrepare] at hPrepared
      rwa [Sweep.tree_logSimulator]
  | simulate hSimulate =>
      rw [Sweep.tree_logSimulator,
        Sweep.tree_of_simulate hSimulate]
      exact hKeeps _ _ _
  | misfire hSimulate =>
      rw [Sweep.tree_logSimulator,
        Sweep.tree_of_simulate hSimulate]
      exact hKeeps _ _ _
  | @analyze tuple _ _ step _ _ _ _ _ hRun =>
      have hTree :=
        step.tree_run runner (sweep.outputDir tuple) w
      rw [hRun] at hTree
      rw [hTree]
      exact hKeeps _ _ _

------------------------------------------------------------
-- Timelines
------------------------------------------------------------

/- Directories are kept from the origin through all deeds, in
   their order, up to the world. -/
structure IsTimeline
    (origin : FileTree)
    (past : List (Deed σ))
    (w : World σ) : Prop where
  throughout : origin.KeepsDirectories w.tree
  before :
    ∀ deed ∈ past,
      origin.KeepsDirectories deed.before.tree
  after :
    ∀ deed ∈ past, deed.after.tree.KeepsDirectories w.tree
  order :
    past.Pairwise fun first second =>
      first.after.tree.KeepsDirectories second.before.tree

/- One more deed, or none. -/
theorem IsTimeline.advance
    {origin : FileTree}
    {past : List (Deed σ)}
    {stage : Stage}
    {w next : World σ}
    (hPast : IsTimeline origin past w)
    (hStep : w.tree.KeepsDirectories next.tree) :
    IsTimeline origin (past ++ Deed.ofStage stage w next)
      next := by
  refine
    { throughout := hPast.throughout.trans hStep
      before := ?_
      after := ?_
      order := ?_ }
  · intro deed hMem
    rcases List.mem_append.mp hMem with hOld | hNew
    · exact hPast.before deed hOld
    · rw [(Deed.mem_ofStage_iff.mp hNew).2.1]
      exact hPast.throughout
  · intro deed hMem
    rcases List.mem_append.mp hMem with hOld | hNew
    · exact (hPast.after deed hOld).trans hStep
    · rw [(Deed.mem_ofStage_iff.mp hNew).2.2]
      exact FileTree.keepsDirectories_refl _
  · rw [List.pairwise_append]
    refine ⟨hPast.order, ?_, ?_⟩
    · unfold Deed.ofStage
      cases stage.worker? with
      | none => exact List.Pairwise.nil
      | some worker => exact List.pairwise_singleton _ _
    · intro first hFirst second hSecond
      rw [(Deed.mem_ofStage_iff.mp hSecond).2.1]
      exact hPast.after first hFirst

/- Directories are kept throughout a sweep. -/
theorem Pool.isTimeline_of_follow
    {moves : List Move}
    {pool final : Pool σ}
    (hKeeps : runner.KeepsDirectories)
    (hFollow :
      pool.follow? sweep runner moves = some final)
    {origin : FileTree}
    (hOrigin : origin.KeepsDirectories pool.world.tree) :
    IsTimeline origin (pool.deeds sweep runner moves)
      final.world := by
  refine deeds_induction
    (fun past _ _ w => IsTimeline origin past w)
    (fun _ hPast => hPast)
    (fun hAdvance _ hPast =>
      hPast.advance (hAdvance.keepsDirectories hKeeps))
    [] hFollow rfl ?_
  exact
    { throughout := hOrigin
      before := nofun
      after := nofun
      order := List.Pairwise.nil }

end LatencySweep
