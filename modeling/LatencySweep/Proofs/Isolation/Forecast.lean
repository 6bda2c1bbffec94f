import LatencySweep.Proofs.Isolation.Foresight
import LatencySweep.Proofs.Isolation.Places
import LatencySweep.Proofs.Pool.Deeds

/-
  Under every schedule, things go as foreseen.

  The world in which a sweep is ready tells, together with
  the answers of the runner, how every tuple will end. No
  move of a worker makes this untrue, because it changes
  nothing at the directories of other tuples.

  Main declarations:
    * `Sweep.prospect`
    * `Stage.IsForetold`
    * `Stage.due`
    * `Stage.IsSettled`
    * `Foreseen`
    * `Foreseen.advance`
-/

namespace LatencySweep

variable {σ : Type}
variable {sweep : Sweep} {runner : Runner σ}
variable {answer : Invocation → Except OsError Outcome}

------------------------------------------------------------
-- Prospects
------------------------------------------------------------

namespace Sweep

/- What the preparation of a tuple's directory comes to when
   the sweep is ready. -/
def prospect
    (sweep : Sweep)
    (ready : World σ)
    (tuple : Tuple) : Except DispatchError Path :=
  (sweep.prepare tuple ready).1

theorem prospect_of_prepare
    {tuple : Tuple}
    {w next : World σ}
    {result : Except DispatchError Path}
    (hPrepare : sweep.prepare tuple w = (result, next)) :
    sweep.prospect w tuple = result := by
  rw [prospect, hPrepare]

/- A preparation can only come to the tuple's directory. -/
theorem eq_outputDir_of_prospect
    {ready : World σ}
    {tuple : Tuple}
    {dir : Path}
    (hDir : sweep.prospect ready tuple = .ok dir) :
    dir = sweep.outputDir tuple := by
  rw [prospect, prepare_fst] at hDir
  unfold verdict at hDir
  split at hDir
  next =>
    cases hDir
    rfl
  next =>
    split at hDir
    next =>
      cases hDir
      rfl
    next => cases hDir

/- What stands at a tuple's directory once it has been
   prepared. -/
def settled
    (sweep : Sweep)
    (ready : World σ)
    (tuple : Tuple) : Option Bool :=
  match sweep.prospect ready tuple with
  | .ok _ => some true
  | .error _ => ready.tree.standing (sweep.outputDir tuple)

theorem settled_of_ok
    {ready : World σ}
    {tuple : Tuple}
    {dir : Path}
    (hDir : sweep.prospect ready tuple = .ok dir) :
    sweep.settled ready tuple = some true := by
  unfold settled
  rw [hDir]

theorem settled_of_error
    {ready : World σ}
    {tuple : Tuple}
    {e : DispatchError}
    (hError : sweep.prospect ready tuple = .error e) :
    sweep.settled ready tuple =
      ready.tree.standing (sweep.outputDir tuple) := by
  unfold settled
  rw [hError]

end Sweep

namespace Stage

/- The directory of the tuple has not been prepared yet. -/
def isFresh : Stage → Bool
  | waiting _ => true
  | held (.checking _) => true
  | held (.preparing _) => true
  | _ => false

/- The next program that is started is one that the sweep
   calls for the tuple. -/
def IsPlanned (sweep : Sweep) : Stage → Prop
  | held (.simulating tuple dir) =>
      dir = sweep.outputDir tuple
  | held (.analyzing _ _ _ steps) => steps ⊆ sweep.analyses
  | _ => True

/- All that is known at a stage agrees with the foretold
   report of its tuple. -/
def IsForetold
    (sweep : Sweep)
    (answer : Invocation → Except OsError Outcome)
    (ready : World σ) : Stage → Prop
  | held (.simulating tuple dir) =>
      sweep.prospect ready tuple = .ok dir
  | held (.analyzing tuple outcome finished steps) =>
      sweep.report tuple (.ok outcome.untimed)
          (finished.map AnalysisResult.untimed ++
            steps.map
              (AnalysisStep.foretold answer
                (sweep.outputDir tuple))) =
        sweep.foretold answer (sweep.prospect ready tuple)
          tuple
  | held (.judging report)
  | held (.sending report)
  | reported report =>
      report.untimed =
        sweep.foretold answer
          (sweep.prospect ready report.tuple) report.tuple
  | _ => True

/- The invocations that are still to be made. -/
def due
    (sweep : Sweep)
    (answer : Invocation → Except OsError Outcome)
    (ready : World σ) : Stage → List Invocation
  | waiting tuple
  | held (.checking tuple)
  | held (.preparing tuple)
  | held (.simulating tuple _) =>
      sweep.foretoldCalls answer
        (sweep.prospect ready tuple) tuple
  | held (.analyzing tuple _ _ steps) =>
      steps.map
        (AnalysisStep.invocation · (sweep.outputDir tuple))
  | _ => []

/- The directory of the tuple is as it was, or settled once
   it has been prepared. -/
def IsSettled
    (sweep : Sweep)
    (ready w : World σ)
    (stage : Stage) : Prop :=
  ∀ tuple,
    stage.tuple? = some tuple →
      w.tree.standing (sweep.outputDir tuple) =
        if stage.isFresh then
          ready.tree.standing (sweep.outputDir tuple)
        else sweep.settled ready tuple

end Stage

/-
  The stages, the abort flag and the world are as the world
  in which the sweep was ready lets us expect.
-/
structure Foreseen
    (sweep : Sweep)
    (answer : Invocation → Except OsError Outcome)
    (ready : World σ)
    (stages : List Stage)
    (flag : Bool)
    (w : World σ) : Prop where
  calm : flag = false
  hasRoot : w.tree.HasRoot sweep.outputRoot
  tuples :
    (stages.filterMap Stage.tuple?).Perm sweep.grid.tuples
  plans : ∀ stage ∈ stages, stage.IsPlanned sweep
  reports :
    ∀ stage ∈ stages, stage.IsForetold sweep answer ready
  directories :
    ∀ stage ∈ stages, stage.IsSettled sweep ready w
  calls :
    (w.invocations ++
        stages.flatMap (Stage.due sweep answer ready)).Perm
      (ready.invocations ++
        sweep.grid.tuples.flatMap fun tuple =>
          sweep.foretoldCalls answer
            (sweep.prospect ready tuple) tuple)

------------------------------------------------------------
-- One Advance
------------------------------------------------------------

section Simulations

variable {tuple : Tuple} {dir : Path}
variable {result : Except DispatchError Outcome}
variable {w next : World σ}
variable
  (hSimulate :
    sweep.simulate runner tuple dir w = (result, next))
include hSimulate

/- A simulator that was launched has ended as foretold. -/
theorem foretoldLaunch_of_simulate
    (hAnswers : runner.Answers sweep answer)
    (hCall :
      sweep.MayCall (sweep.simulatorInvocation tuple dir)) :
    foretoldLaunch answer
        (sweep.simulatorInvocation tuple dir) =
      untimedResult result := by
  rw [← hAnswers.launch hCall w, ← Sweep.simulate,
    hSimulate]

end Simulations

namespace Advance

variable {before after : Stage}
variable {flag flag' : Bool}
variable {ready w w' : World σ}

/- A directory is settled as soon as it is prepared. -/
theorem isSettled_of_preparing
    {tuple : Tuple}
    (hAdvance :
      Advance sweep runner (.held (.preparing tuple)) flag w
        after flag' w')
    (hProspect :
      sweep.prospect w tuple = sweep.prospect ready tuple)
    (hSettled :
      (Stage.held (.preparing tuple)).IsSettled sweep ready
        w) :
    after.IsSettled sweep ready w' := by
  have hBefore :
      w.tree.standing (sweep.outputDir tuple) =
        ready.tree.standing (sweep.outputDir tuple) :=
    hSettled tuple rfl
  intro other hOther
  cases hAdvance with
  | @prepare _ dir _ _ next hPrepare =>
      cases hOther
      have hPrepared := Sweep.Prepared.of_prepare hPrepare
      have hDir : sweep.prospect ready tuple = .ok dir :=
        hProspect.symm.trans
          (Sweep.prospect_of_prepare hPrepare)
      exact
        (hPrepared.accepted dir rfl).trans
          (Sweep.settled_of_ok hDir).symm
  | @refuse _ e _ _ next hPrepare =>
      cases hOther
      have hPrepared := Sweep.Prepared.of_prepare hPrepare
      have hError : sweep.prospect ready tuple = .error e :=
        hProspect.symm.trans
          (Sweep.prospect_of_prepare hPrepare)
      rw [Sweep.tree_logSimulator, hPrepared.refused e rfl]
      exact
        hBefore.trans (Sweep.settled_of_error hError).symm

variable
  (hAdvance :
    Advance sweep runner before flag w after flag' w')
include hAdvance

/- Without the policy to abort, the flag stays down. -/
theorem calm
    (hPolicy : sweep.onFailure ≠ .abort)
    (hCalm : flag = false) :
    flag' = false := by
  cases hAdvance with
  | alarm hAborting =>
      simp [Sweep.isAborting, hPolicy] at hAborting
  | skip => cases hCalm
  | take | proceed | prepare | refuse | simulate | misfire
  | analyze | conclude | judge | send | receive =>
      exact hCalm

/- Only a preparation settles a directory. -/
theorem isFresh_eq
    (hCalm : flag = false)
    (hReady : ∀ tuple, before ≠ .held (.preparing tuple)) :
    after.isFresh = before.isFresh := by
  cases hAdvance with
  | skip => cases hCalm
  | prepare | refuse => exact absurd rfl (hReady _)
  | take | proceed | simulate | misfire | analyze | conclude
  | alarm | judge | send | receive => rfl

/- No program is started but those of the sweep. -/
theorem isPlanned
    (hPlanned : before.IsPlanned sweep) :
    after.IsPlanned sweep := by
  cases hAdvance with
  | prepare hPrepare =>
      exact
        Sweep.eq_outputDir_of_prospect
          (Sweep.prospect_of_prepare hPrepare)
  | simulate => exact sweep.stepsAfter_subset _
  | analyze => exact (List.cons_subset.mp hPlanned).2
  | take | skip | proceed | refuse | misfire | conclude
  | alarm | judge | send | receive => trivial

section Plans

/- The stage is one of a tuple of the grid and goes on as
   the sweep plans. -/
variable
  (hPlanned : before.IsPlanned sweep)
  (hMember :
    ∀ tuple,
      before.tuple? = some tuple →
        tuple ∈ sweep.grid.tuples)
include hPlanned hMember

/- The tree stays, gets the directory of a tuple that is
   prepared, or is as the runner leaves it. -/
theorem tree_cases
    {tuple : Tuple}
    (hTuple : before.tuple? = some tuple) :
    w'.tree = w.tree ∨
      before = .held (.preparing tuple) ∧
          w.tree.Creates (sweep.outputDir tuple) w'.tree ∨
      ∃ invocation,
        sweep.MayCall invocation ∧
          w'.tree = (w.answer runner invocation).tree := by
  cases hAdvance with
  | take | skip | proceed | conclude | alarm | judge | send
  | receive => exact Or.inl rfl
  | prepare hPrepare =>
      cases hTuple
      have hPrepared := Sweep.Prepared.of_prepare hPrepare
      exact
        hPrepared.tree_cases.imp_right
          fun hCreates => Or.inl ⟨rfl, hCreates⟩
  | @refuse _ e _ _ next hPrepare =>
      cases hTuple
      have hPrepared := Sweep.Prepared.of_prepare hPrepare
      rw [Sweep.tree_logSimulator]
      exact Or.inl (hPrepared.refused e rfl)
  | simulate hSimulate | misfire hSimulate =>
      cases hTuple
      cases hPlanned
      rw [Sweep.tree_logSimulator,
        Sweep.tree_of_simulate hSimulate]
      have hCall :=
        Sweep.mayCall_simulator (hMember tuple rfl)
      exact Or.inr (Or.inr ⟨_, hCall, rfl⟩)
  | @analyze _ _ _ step _ _ _ _ next hRun =>
      cases hTuple
      have hCall :=
        Sweep.mayCall_analysis (hMember tuple rfl)
          (hPlanned List.mem_cons_self)
      refine Or.inr (Or.inr ⟨_, hCall, ?_⟩)
      rw [← AnalysisStep.tree_run, hRun]

/- The output root stays. -/
theorem hasRoot
    (hSpares : runner.Spares sweep)
    (hRoot : w.tree.HasRoot sweep.outputRoot) :
    w'.tree.HasRoot sweep.outputRoot := by
  rcases hAdvance.exists_tuple with ⟨tuple, hTuple⟩
  rcases hAdvance.tree_cases hPlanned hMember hTuple with
    hSame | ⟨_, hCreates⟩ | ⟨invocation, hCall, hAnswer⟩
  · rw [hSame]
    exact hRoot
  · exact hRoot.extends hCreates.extends
  · rw [hAnswer]
    exact hSpares.hasRoot hCall hRoot

/- Nothing changes at the directories of other tuples. -/
theorem standing_other
    (hValid : sweep.IsValid)
    (hChildren : sweep.HasDirectChildren)
    (hSpares : runner.Spares sweep)
    (hRoot : w.tree.HasRoot sweep.outputRoot)
    {tuple other : Tuple}
    (hTuple : before.tuple? = some tuple)
    (hOther : other ∈ sweep.grid.tuples)
    (hDiffer : tuple ≠ other) :
    w'.tree.standing (sweep.outputDir other) =
      w.tree.standing (sweep.outputDir other) := by
  rcases hAdvance.tree_cases hPlanned hMember hTuple with
    hSame | ⟨_, hCreates⟩ | ⟨invocation, hCall, hAnswer⟩
  · rw [hSame]
  · exact
      Sweep.standing_of_creates hChildren hValid
        (hMember tuple hTuple) hOther hDiffer hRoot hCreates
  · rw [hAnswer]
    exact hSpares.standing hCall w hOther

/- What stands at its own directory changes for a tuple only
   while it is prepared. -/
theorem standing_self
    (hSpares : runner.Spares sweep)
    (hReady : ∀ tuple, before ≠ .held (.preparing tuple))
    {tuple : Tuple}
    (hTuple : before.tuple? = some tuple) :
    w'.tree.standing (sweep.outputDir tuple) =
      w.tree.standing (sweep.outputDir tuple) := by
  rcases hAdvance.tree_cases hPlanned hMember hTuple with
    hSame | ⟨hPreparing, _⟩ | ⟨invocation, hCall, hAnswer⟩
  · rw [hSame]
  · exact absurd hPreparing (hReady tuple)
  · rw [hAnswer]
    exact hSpares.standing hCall w (hMember tuple hTuple)

section Prospects

/- The flag is down, and a directory to be prepared is as it
   was when the sweep was ready. -/
variable
  (hCalm : flag = false)
  (hProspect :
    ∀ tuple,
      before = .held (.preparing tuple) →
        sweep.prospect w tuple =
          sweep.prospect ready tuple)
include hCalm hProspect

/-
  The invocations made and still to be made stay the same,
  in their order.
-/
theorem invocations_due
    (hAnswers : runner.Answers sweep answer)
    (hForetold : before.IsForetold sweep answer ready) :
    w'.invocations ++ after.due sweep answer ready =
      w.invocations ++ before.due sweep answer ready := by
  cases hAdvance with
  | take | proceed | conclude | judge | send | receive =>
      rfl
  | skip => cases hCalm
  | alarm =>
      rw [Sweep.logAbort, World.invocations_log]
      rfl
  | @prepare tuple dir _ _ next hPrepare =>
      have hCalls := sweep.invocations_prepare tuple w
      rw [hPrepare] at hCalls
      rw [hCalls]
      rfl
  | @refuse tuple e _ _ next hPrepare =>
      have hCalls := sweep.invocations_prepare tuple w
      rw [hPrepare] at hCalls
      have hError : sweep.prospect ready tuple = .error e :=
        (hProspect tuple rfl).symm.trans
          (Sweep.prospect_of_prepare hPrepare)
      rw [Sweep.invocations_logSimulator, hCalls]
      simp only [Stage.due, Sweep.foretoldCalls, hError]
  | @simulate tuple dir outcome _ _ next hSimulate =>
      cases hPlanned
      have hEnd :=
        foretoldLaunch_of_simulate hSimulate hAnswers
          (Sweep.mayCall_simulator (hMember tuple rfl))
      have hDir :
          sweep.prospect ready tuple =
            .ok (sweep.outputDir tuple) := hForetold
      rw [Sweep.invocations_logSimulator,
        Sweep.invocations_of_simulate hSimulate,
        List.append_assoc]
      simp only [Stage.due, Sweep.foretoldCalls, hDir, hEnd]
      rfl
  | @misfire tuple dir e _ _ next hSimulate =>
      cases hPlanned
      have hEnd :=
        foretoldLaunch_of_simulate hSimulate hAnswers
          (Sweep.mayCall_simulator (hMember tuple rfl))
      have hDir :
          sweep.prospect ready tuple =
            .ok (sweep.outputDir tuple) := hForetold
      rw [Sweep.invocations_logSimulator,
        Sweep.invocations_of_simulate hSimulate,
        List.append_assoc]
      simp only [Stage.due, Sweep.foretoldCalls, hDir, hEnd]
      rfl
  | @analyze tuple _ _ step _ _ _ _ next hRun =>
      have hCalls :=
        step.invocations_run runner (sweep.outputDir tuple) w
      rw [hRun] at hCalls
      rw [hCalls, List.append_assoc]
      rfl

/- What is known at the next stage agrees with the foretold
   report as well. -/
theorem isForetold
    (hAnswers : runner.Answers sweep answer)
    (hForetold : before.IsForetold sweep answer ready) :
    after.IsForetold sweep answer ready := by
  cases hAdvance with
  | take | proceed => trivial
  | skip => cases hCalm
  | alarm | judge | send | receive => exact hForetold
  | @prepare tuple dir _ _ next hPrepare =>
      exact
        (hProspect tuple rfl).symm.trans
          (Sweep.prospect_of_prepare hPrepare)
  | @refuse tuple e _ _ next hPrepare =>
      have hError : sweep.prospect ready tuple = .error e :=
        (hProspect tuple rfl).symm.trans
          (Sweep.prospect_of_prepare hPrepare)
      simp only [Stage.IsForetold, Sweep.report,
        Sweep.foretold, hError]
      rfl
  | @simulate tuple dir outcome _ _ next hSimulate =>
      cases hPlanned
      have hEnd :=
        foretoldLaunch_of_simulate hSimulate hAnswers
          (Sweep.mayCall_simulator (hMember tuple rfl))
      have hDir :
          sweep.prospect ready tuple =
            .ok (sweep.outputDir tuple) := hForetold
      simp only [Stage.IsForetold, Sweep.foretold, hDir,
        hEnd]
      rfl
  | @misfire tuple dir e _ _ next hSimulate =>
      cases hPlanned
      have hEnd :=
        foretoldLaunch_of_simulate hSimulate hAnswers
          (Sweep.mayCall_simulator (hMember tuple rfl))
      have hDir :
          sweep.prospect ready tuple =
            .ok (sweep.outputDir tuple) := hForetold
      simp only [Stage.IsForetold, Sweep.report,
        Sweep.foretold, hDir, hEnd]
      rfl
  | @analyze tuple outcome finished step steps result _ _ next
      hRun =>
      have hCall :=
        Sweep.mayCall_analysis (hMember tuple rfl)
          (hPlanned List.mem_cons_self)
      have hResult := hAnswers.run hCall w
      rw [hRun] at hResult
      simp only [Stage.IsForetold] at hForetold ⊢
      rw [← hForetold]
      simp [hResult]
  | @conclude tuple outcome finished _ _ =>
      simp only [Stage.IsForetold] at hForetold ⊢
      rw [List.map_nil, List.append_nil] at hForetold
      exact hForetold

/- The directory of the tuple stays as foreseen. -/
theorem isSettled
    (hSpares : runner.Spares sweep)
    (hSettled : before.IsSettled sweep ready w) :
    after.IsSettled sweep ready w' := by
  by_cases hPreparing :
      ∃ tuple, before = .held (.preparing tuple)
  · rcases hPreparing with ⟨tuple, rfl⟩
    exact
      isSettled_of_preparing hAdvance (hProspect tuple rfl)
        hSettled
  · have hReady (tuple : Tuple) :
        before ≠ .held (.preparing tuple) := by
      intro hSame
      exact hPreparing ⟨tuple, hSame⟩
    intro tuple hTuple
    rw [hAdvance.tuple?_eq] at hTuple
    rw [hAdvance.standing_self hPlanned hMember hSpares
        hReady hTuple,
      hAdvance.isFresh_eq hCalm hReady]
    exact hSettled tuple hTuple

end Prospects

end Plans

end Advance

------------------------------------------------------------
-- Whole Schedules
------------------------------------------------------------

namespace Foreseen

variable {stages others : List Stage}
variable {before after : Stage}
variable {flag flag' : Bool}
variable {ready w w' : World σ}

theorem perm
    (hPerm : stages.Perm others)
    (hForeseen :
      Foreseen sweep answer ready stages flag w) :
    Foreseen sweep answer ready others flag w :=
  { calm := hForeseen.calm
    hasRoot := hForeseen.hasRoot
    tuples :=
      (hPerm.filterMap _).symm.trans hForeseen.tuples
    plans := fun stage hStage =>
      hForeseen.plans stage (hPerm.symm.subset hStage)
    reports := fun stage hStage =>
      hForeseen.reports stage (hPerm.symm.subset hStage)
    directories := fun stage hStage =>
      hForeseen.directories stage (hPerm.symm.subset hStage)
    calls :=
      ((hPerm.flatMap_right _).symm.append_left _).trans
        hForeseen.calls }

/- All tuples are of the grid. -/
theorem mem_tuples
    (hForeseen : Foreseen sweep answer ready stages flag w)
    {stage : Stage}
    (hStage : stage ∈ stages)
    {tuple : Tuple}
    (hTuple : stage.tuple? = some tuple) :
    tuple ∈ sweep.grid.tuples :=
  hForeseen.tuples.subset
    (List.mem_filterMap.mpr ⟨stage, hStage, hTuple⟩)

/- No two stages have the same tuple. -/
theorem ne_of_mem
    (hForeseen :
      Foreseen sweep answer ready (before :: others) flag w)
    {stage : Stage}
    (hStage : stage ∈ others)
    {tuple other : Tuple}
    (hTuple : before.tuple? = some tuple)
    (hOther : stage.tuple? = some other) :
    tuple ≠ other := by
  have hTuples := hForeseen.tuples
  rw [List.filterMap_cons, hTuple] at hTuples
  have hNodup :=
    hTuples.nodup_iff.mpr sweep.grid.nodup_tuples
  rintro rfl
  apply (List.nodup_cons.mp hNodup).1
  exact List.mem_filterMap.mpr ⟨stage, hStage, hOther⟩

section Keeping

variable
  (hValid : sweep.IsValid)
  (hChildren : sweep.HasDirectChildren)
include hValid hChildren

/- A directory that is about to be prepared is as it was when
   the sweep was ready. -/
theorem prospect_eq
    (hReady : ready.tree.HasRoot sweep.outputRoot)
    (hForeseen : Foreseen sweep answer ready stages flag w)
    {tuple : Tuple}
    (hStage : .held (.preparing tuple) ∈ stages) :
    sweep.prospect w tuple = sweep.prospect ready tuple :=
  Sweep.prepare_congr hChildren hValid
    (hForeseen.mem_tuples hStage rfl) hForeseen.hasRoot
    hReady (hForeseen.directories _ hStage tuple rfl)

/- The directories of the other tuples stay as foreseen. -/
theorem isSettled_other
    (hSpares : runner.Spares sweep)
    (hAdvance :
      Advance sweep runner before flag w after flag' w')
    (hForeseen :
      Foreseen sweep answer ready (before :: others) flag w)
    {stage : Stage}
    (hStage : stage ∈ others) :
    stage.IsSettled sweep ready w' := by
  intro other hOther
  have hMember := List.mem_cons_of_mem before hStage
  rcases hAdvance.exists_tuple with ⟨tuple, hTuple⟩
  have hSame :
      w'.tree.standing (sweep.outputDir other) =
        w.tree.standing (sweep.outputDir other) :=
    hAdvance.standing_other
      (hForeseen.plans before List.mem_cons_self)
      (fun _ => hForeseen.mem_tuples List.mem_cons_self)
      hValid hChildren hSpares hForeseen.hasRoot hTuple
      (hForeseen.mem_tuples hMember hOther)
      (hForeseen.ne_of_mem hStage hTuple hOther)
  rw [hSame]
  exact hForeseen.directories stage hMember other hOther

/- Every advance goes as foreseen. -/
theorem advance
    (hPolicy : sweep.onFailure ≠ .abort)
    (hAnswers : runner.Answers sweep answer)
    (hSpares : runner.Spares sweep)
    (hReady : ready.tree.HasRoot sweep.outputRoot)
    (hAdvance :
      Advance sweep runner before flag w after flag' w')
    (hForeseen :
      Foreseen sweep answer ready (before :: others) flag
        w) :
    Foreseen sweep answer ready (after :: others) flag'
      w' := by
  have hCalm := hForeseen.calm
  have hPlanned :=
    hForeseen.plans before List.mem_cons_self
  have hMember (tuple : Tuple)
      (hTuple : before.tuple? = some tuple) :
      tuple ∈ sweep.grid.tuples :=
    hForeseen.mem_tuples List.mem_cons_self hTuple
  have hProspect (tuple : Tuple)
      (hPreparing : before = .held (.preparing tuple)) :
      sweep.prospect w tuple =
        sweep.prospect ready tuple := by
    subst hPreparing
    exact
      hForeseen.prospect_eq hValid hChildren hReady
        List.mem_cons_self
  have hForetold :=
    hForeseen.reports before List.mem_cons_self
  have hSettled :=
    hForeseen.directories before List.mem_cons_self
  refine
    { calm := hAdvance.calm hPolicy hCalm
      hasRoot :=
        hAdvance.hasRoot hPlanned hMember hSpares
          hForeseen.hasRoot
      tuples := ?_
      plans := ?_
      reports := ?_
      directories := ?_
      calls := ?_ }
  · have hTuples := hForeseen.tuples
    rw [List.filterMap_cons] at hTuples ⊢
    rw [hAdvance.tuple?_eq]
    exact hTuples
  · intro stage hStage
    rcases List.mem_cons.mp hStage with rfl | hOther
    · exact hAdvance.isPlanned hPlanned
    · exact
        hForeseen.plans stage
          (List.mem_cons_of_mem _ hOther)
  · intro stage hStage
    rcases List.mem_cons.mp hStage with rfl | hOther
    · exact
        hAdvance.isForetold hPlanned hMember hCalm hProspect
          hAnswers hForetold
    · exact
        hForeseen.reports stage
          (List.mem_cons_of_mem _ hOther)
  · intro stage hStage
    rcases List.mem_cons.mp hStage with rfl | hOther
    · exact
        hAdvance.isSettled hPlanned hMember hCalm hProspect
          hSpares hSettled
    · exact
        hForeseen.isSettled_other hValid hChildren hSpares
          hAdvance hOther
  · have hCalls := hForeseen.calls
    rw [List.flatMap_cons, ← List.append_assoc] at hCalls ⊢
    rw [hAdvance.invocations_due hPlanned hMember hCalm
      hProspect hAnswers hForetold]
    exact hCalls

end Keeping

/- In the beginning, everything is as foreseen. -/
theorem start
    (hReady : ready.tree.HasRoot sweep.outputRoot) :
    Foreseen sweep answer ready
      (Pool.start sweep ready).stages false ready := by
  rw [Pool.stages_start]
  refine
    { calm := rfl
      hasRoot := hReady
      tuples := ?_
      plans := ?_
      reports := ?_
      directories := ?_
      calls := ?_ }
  · rw [List.filterMap_map]
    exact List.Perm.of_eq List.filterMap_some
  · intro stage hStage
    rcases List.mem_map.mp hStage with ⟨tuple, _, rfl⟩
    trivial
  · intro stage hStage
    rcases List.mem_map.mp hStage with ⟨tuple, _, rfl⟩
    trivial
  · intro stage hStage tuple hTuple
    rcases List.mem_map.mp hStage with ⟨_, _, rfl⟩
    rfl
  · rw [List.flatMap_map]
    exact .refl _

/- Under any schedule, everything goes as foreseen. -/
theorem follow
    (hValid : sweep.IsValid)
    (hPolicy : sweep.onFailure ≠ .abort)
    (hChildren : sweep.HasDirectChildren)
    (hAnswers : runner.Answers sweep answer)
    (hSpares : runner.Spares sweep)
    (hReady : ready.tree.HasRoot sweep.outputRoot)
    {moves : List Move}
    {pool : Pool σ}
    (hFollow :
      (Pool.start sweep ready).follow? sweep runner moves =
        some pool) :
    Foreseen sweep answer ready pool.stages pool.aborted
      pool.world :=
  Pool.deeds_induction
    (fun _ stages flag w =>
      Foreseen sweep answer ready stages flag w)
    perm
    (fun hAdvance _ hForeseen =>
      hForeseen.advance hValid hChildren hPolicy hAnswers
        hSpares hReady hAdvance)
    [] hFollow rfl (start hReady)

end Foreseen

end LatencySweep
