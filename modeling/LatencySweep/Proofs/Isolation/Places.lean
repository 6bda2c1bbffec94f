import LatencySweep.Proofs.FileTree.Children
import LatencySweep.Proofs.Isolation.Foresight
import LatencySweep.Proofs.Sweep.Directories

/-
  The directories of tuples side by side.

  The directories are children of the output root. What is
  done with one of them depends on what stands there, and
  changes nothing at the others.

  Main declarations:
    * `Sweep.HasDirectChildren`
    * `Runner.Spares`
    * `Sweep.prepare_congr`
    * `Sweep.Prepared`
    * `Sweep.standing_of_creates`
-/

namespace LatencySweep

variable {σ τ : Type}

------------------------------------------------------------
-- Runners That Spare Places
------------------------------------------------------------

/- The path of the output root or of a tuple's directory. -/
def Sweep.IsPlace (sweep : Sweep) (p : Path) : Prop :=
  p = sweep.outputRoot ∨
    ∃ tuple ∈ sweep.grid.tuples, p = sweep.outputDir tuple

/- When it is called by the sweep, the runner neither creates
   nor removes anything at one of these paths. -/
def Runner.Spares
    (runner : Runner σ)
    (sweep : Sweep) : Prop :=
  ∀ invocation,
    sweep.MayCall invocation →
      ∀ tree programs p,
        sweep.IsPlace p →
          (runner.run invocation tree
              programs).tree.standing p =
            tree.standing p

namespace Runner.Spares

variable {runner : Runner σ} {sweep : Sweep}

theorem standing
    (hSpares : runner.Spares sweep)
    {invocation : Invocation}
    (hCall : sweep.MayCall invocation)
    (w : World σ)
    {tuple : Tuple}
    (hTuple : tuple ∈ sweep.grid.tuples) :
    (w.answer runner invocation).tree.standing
        (sweep.outputDir tuple) =
      w.tree.standing (sweep.outputDir tuple) :=
  hSpares _ hCall _ _ _ (Or.inr ⟨tuple, hTuple, rfl⟩)

theorem hasRoot
    (hSpares : runner.Spares sweep)
    {invocation : Invocation}
    (hCall : sweep.MayCall invocation)
    {w : World σ}
    (hRoot : w.tree.HasRoot sweep.outputRoot) :
    (w.answer runner invocation).tree.HasRoot
      sweep.outputRoot := by
  refine hRoot.imp_right ?_
  intro hDirectory
  rw [FileTree.isDirectory_iff_standing] at hDirectory ⊢
  rw [World.answer, hSpares _ hCall _ _ _ (Or.inl rfl)]
  exact hDirectory

end Runner.Spares

------------------------------------------------------------
-- Direct Children
------------------------------------------------------------

namespace Sweep

variable {sweep : Sweep}

/- The directories of all tuples are direct children of the
   output root. -/
def HasDirectChildren (sweep : Sweep) : Prop :=
  ∀ tuple ∈ sweep.grid.tuples,
    ∃ name,
      (sweep.outputDir tuple).components =
        sweep.outputRoot.components ++ [.name name]

theorem HasDirectChildren.exists_isChild
    (hChildren : sweep.HasDirectChildren)
    (hValid : sweep.IsValid)
    {tuple : Tuple}
    (hTuple : tuple ∈ sweep.grid.tuples) :
    ∃ name,
      sweep.outputRoot.IsChild name
        (sweep.outputDir tuple) := by
  rcases hChildren tuple hTuple with ⟨name, hName⟩
  exact
    ⟨name,
      { components := hName
        dashed := hValid.isDashed_outputDir hTuple }⟩

/- Different tuples have different names below the root. -/
theorem IsValid.eq_of_isChild
    (hValid : sweep.IsValid)
    {a b : Tuple}
    (hA : a ∈ sweep.grid.tuples)
    (hB : b ∈ sweep.grid.tuples)
    {name : String}
    (hChildA :
      sweep.outputRoot.IsChild name (sweep.outputDir a))
    (hChildB :
      sweep.outputRoot.IsChild name (sweep.outputDir b)) :
    a = b := by
  apply hValid.eq_of_steps_eq hA hB
  rw [Path.steps_eq_of_components hChildA.components,
    Path.steps_eq_of_components hChildB.components]

/- The creation of a tuple's directory changes nothing at
   that of another. -/
theorem standing_of_creates
    (hChildren : sweep.HasDirectChildren)
    (hValid : sweep.IsValid)
    {a b : Tuple}
    (hA : a ∈ sweep.grid.tuples)
    (hB : b ∈ sweep.grid.tuples)
    (hDiffer : a ≠ b)
    {tree next : FileTree}
    (hRoot : tree.HasRoot sweep.outputRoot)
    (hCreates : tree.Creates (sweep.outputDir a) next) :
    next.standing (sweep.outputDir b) =
      tree.standing (sweep.outputDir b) := by
  rcases hChildren.exists_isChild hValid hA with
    ⟨name, hChild⟩
  rcases hChildren.exists_isChild hValid hB with
    ⟨name', hChild'⟩
  apply hCreates.standing_sibling hChild hChild' hRoot
  rintro rfl
  exact hDiffer (hValid.eq_of_isChild hA hB hChild hChild')

------------------------------------------------------------
-- Preparing a Directory
------------------------------------------------------------

/- How the preparation of a directory ends, by how its
   creation does and whether there is a directory. -/
def verdict
    (sweep : Sweep)
    (dir : Path)
    (creation : Except OsError Unit)
    (isDirectory : Bool) : Except DispatchError Path :=
  match creation with
  | .ok _ => .ok dir
  | .error cause =>
      if cause = .alreadyExists && sweep.allowExisting &&
          isDirectory then
        .ok dir
      else .error (.createDir dir cause)

theorem prepare_fst
    (sweep : Sweep)
    (tuple : Tuple)
    (w : World σ) :
    (sweep.prepare tuple w).1 =
      sweep.verdict (sweep.outputDir tuple)
        ((w.tree.createDirectory
          (sweep.outputDir tuple)).map fun _ => ())
        (w.tree.isDirectory (sweep.outputDir tuple)) := by
  unfold prepare verdict mayReuse
  dsimp only
  cases w.tree.createDirectory (sweep.outputDir tuple) with
  | ok tree => rfl
  | error cause =>
      dsimp only [Except.map]
      split
      next => rfl
      next => rfl

/- The verdict on a directory depends on what stands there,
   wherever the root is there. -/
theorem prepare_congr
    (hChildren : sweep.HasDirectChildren)
    (hValid : sweep.IsValid)
    {tuple : Tuple}
    (hTuple : tuple ∈ sweep.grid.tuples)
    {w : World σ}
    {w' : World τ}
    (hRoot : w.tree.HasRoot sweep.outputRoot)
    (hRoot' : w'.tree.HasRoot sweep.outputRoot)
    (hStanding :
      w.tree.standing (sweep.outputDir tuple) =
        w'.tree.standing (sweep.outputDir tuple)) :
    (sweep.prepare tuple w).1 =
      (sweep.prepare tuple w').1 := by
  rcases hChildren.exists_isChild hValid hTuple with
    ⟨name, hChild⟩
  have hDirectory :
      w.tree.isDirectory (sweep.outputDir tuple) =
        w'.tree.isDirectory (sweep.outputDir tuple) := by
    rw [Bool.eq_iff_iff, FileTree.isDirectory_iff_standing,
      FileTree.isDirectory_iff_standing, hStanding]
  rw [prepare_fst, prepare_fst,
    FileTree.createDirectory_child hChild hRoot,
    FileTree.createDirectory_child hChild hRoot',
    hStanding, hDirectory]

/- What a preparation leaves behind. -/
structure Prepared
    (sweep : Sweep)
    (tuple : Tuple)
    (w next : World σ)
    (result : Except DispatchError Path) : Prop where
  tree_cases :
    next.tree = w.tree ∨
      w.tree.Creates (sweep.outputDir tuple) next.tree
  accepted :
    ∀ dir,
      result = .ok dir →
        next.tree.standing (sweep.outputDir tuple) =
          some true
  refused :
    ∀ e, result = .error e → next.tree = w.tree

theorem prepared
    (sweep : Sweep)
    (tuple : Tuple)
    (w : World σ) :
    sweep.Prepared tuple w (sweep.prepare tuple w).2
      (sweep.prepare tuple w).1 := by
  unfold prepare
  dsimp only
  cases hCreate :
      w.tree.createDirectory (sweep.outputDir tuple) with
  | ok tree =>
      have hCreates :=
        FileTree.creates_of_createDirectory hCreate
      exact
        { tree_cases := Or.inr hCreates
          accepted := fun _ _ =>
            FileTree.isDirectory_iff_standing.mp
              hCreates.isDirectory
          refused := nofun }
  | error cause =>
      dsimp only
      split
      next hReuse =>
        have hDirectory :
            w.tree.isDirectory (sweep.outputDir tuple) =
              true := by
          unfold mayReuse at hReuse
          exact (Bool.and_eq_true_iff.mp hReuse).2
        exact
          { tree_cases := Or.inl rfl
            accepted := fun _ _ =>
              FileTree.isDirectory_iff_standing.mp hDirectory
            refused := nofun }
      next =>
        exact
          { tree_cases := Or.inl rfl
            accepted := nofun
            refused := fun _ _ => rfl }

theorem Prepared.of_prepare
    {tuple : Tuple}
    {w next : World σ}
    {result : Except DispatchError Path}
    (hPrepare : sweep.prepare tuple w = (result, next)) :
    sweep.Prepared tuple w next result := by
  have hPrepared := sweep.prepared tuple w
  rwa [hPrepare] at hPrepared

end Sweep

end LatencySweep
