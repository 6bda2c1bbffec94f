import LatencySweep.Proofs.Isolation.Places
import LatencySweep.Proofs.Pool.Life

/-
  What becomes of a tuple where no directory is used again.

  A tuple is skipped, is refused its directory, or has made
  a directory where nothing was. Programs are called for it
  in the last case only, and not before. This is kept by
  every advance of the tuple and so holds of its life.

  Main declarations:
    * `Sweep.prepare_eq_ok_of_strict`
    * `Pool.invocations_of_deed`
    * `Deed.Makes`
    * `Deed.Refuses`
    * `Fate`
    * `Advance.fits`
    * `Life.fits`
    * `Life.exists_makes`
-/

namespace LatencySweep

variable {σ : Type}
variable {sweep : Sweep} {runner : Runner σ}

------------------------------------------------------------
-- Strict Preparations
------------------------------------------------------------

namespace Sweep

/- If no directory may be used again, one that is prepared is
   made where nothing was. -/
theorem prepare_eq_ok_of_strict
    {tuple : Tuple}
    {dir : Path}
    {w next : World σ}
    (hStrict : sweep.allowExisting = false)
    (hPrepare : sweep.prepare tuple w = (.ok dir, next)) :
    dir = sweep.outputDir tuple ∧
      w.tree.Creates (sweep.outputDir tuple) next.tree := by
  unfold prepare at hPrepare
  dsimp only at hPrepare
  split at hPrepare
  next tree hCreate =>
    cases hPrepare
    exact ⟨rfl, FileTree.creates_of_createDirectory hCreate⟩
  next cause hCreate =>
    have hReuse :
        sweep.mayReuse (sweep.outputDir tuple) w.tree
          cause = false := by
      simp [mayReuse, hStrict]
    rw [hReuse] at hPrepare
    cases hPrepare

/- A preparation fails because of the directory, and leaves
   the world as it was. -/
theorem prepare_eq_error
    {tuple : Tuple}
    {e : DispatchError}
    {w next : World σ}
    (hPrepare : sweep.prepare tuple w = (.error e, next)) :
    next = w ∧
      ∃ cause, e = .createDir (sweep.outputDir tuple) cause := by
  unfold prepare at hPrepare
  dsimp only at hPrepare
  split at hPrepare
  next => cases hPrepare
  next cause hCreate =>
    split at hPrepare
    next => cases hPrepare
    next =>
      cases hPrepare
      exact ⟨rfl, cause, rfl⟩

end Sweep

------------------------------------------------------------
-- Calls
------------------------------------------------------------

/- The program that a worker is about to call. -/
def Worker.call? (sweep : Sweep) : Worker → Option Invocation
  | simulating tuple dir =>
      some (sweep.simulatorInvocation tuple dir)
  | analyzing tuple _ _ (step :: _) =>
      some (step.invocation (sweep.outputDir tuple))
  | _ => none

/- Programs are called for tuples. -/
theorem Worker.exists_tuple_of_call?
    {worker : Worker}
    {call : Invocation}
    (hCall : worker.call? sweep = some call) :
    ∃ tuple, worker.tuple? = some tuple := by
  cases worker with
  | idle => cases hCall
  | checking | preparing | simulating | analyzing | judging
  | sending => exact ⟨_, rfl⟩

/- The programs that a move has called. -/
def Deed.invocations (deed : Deed σ) : List Invocation :=
  deed.events.filterMap Event.invocation?

/- An advance calls the program that the worker was about to
   call, and no other. -/
theorem Advance.invocations_eq
    {worker : Worker}
    {after : Stage}
    {flag flag' : Bool}
    {w w' : World σ}
    (hAdvance :
      Advance sweep runner (.held worker) flag w after
        flag' w') :
    w'.invocations =
      w.invocations ++ (worker.call? sweep).toList := by
  cases hAdvance with
  | skip | proceed | conclude | judge | send =>
      exact (List.append_nil _).symm
  | alarm =>
      exact
        (World.invocations_log _ _ _).trans
          (List.append_nil _).symm
  | @prepare tuple _ _ _ _ hPrepare =>
      have hSame := sweep.invocations_prepare tuple w
      rw [hPrepare] at hSame
      exact hSame.trans (List.append_nil _).symm
  | @refuse tuple _ _ _ _ hPrepare =>
      have hSame := sweep.invocations_prepare tuple w
      rw [hPrepare] at hSame
      rw [Sweep.invocations_logSimulator]
      exact hSame.trans (List.append_nil _).symm
  | simulate hSimulate =>
      rw [Sweep.invocations_logSimulator]
      exact Sweep.invocations_of_simulate hSimulate
  | misfire hSimulate =>
      rw [Sweep.invocations_logSimulator]
      exact Sweep.invocations_of_simulate hSimulate
  | @analyze tuple _ _ step _ _ _ _ _ hRun =>
      have hCalled :=
        step.invocations_run runner (sweep.outputDir tuple) w
      rwa [hRun] at hCalled

/- A move calls what its worker was about to call. -/
theorem Pool.invocations_of_deed
    {moves : List Move}
    {pool final : Pool σ}
    (hFollow :
      pool.follow? sweep runner moves = some final) :
    ∀ deed ∈ pool.deeds sweep runner moves,
      deed.invocations =
        (deed.worker.call? sweep).toList := by
  refine forall_deeds ?_ hFollow
  intro worker flag w after flag' w' hAdvance
  have hCalls := hAdvance.invocations_eq
  rw [World.invocations, hAdvance.events_eq,
    List.filterMap_append] at hCalls
  have hOwn := List.append_cancel_left hCalls
  simpa [Deed.ofStage, Stage.worker?, Deed.invocations]
    using hOwn

------------------------------------------------------------
-- Kinds of Deeds
------------------------------------------------------------

/- Something was logged. -/
def Event.IsLogged (event : Event) : Prop :=
  ∃ level message, event = .logged level message

namespace Deed

/- The move calls the simulator for the tuple. -/
def Simulates (tuple : Tuple) (deed : Deed σ) : Prop :=
  ∃ dir, deed.worker = .simulating tuple dir

theorem Simulates.tuple?_eq
    {tuple : Tuple}
    {deed : Deed σ}
    (hSimulates : deed.Simulates tuple) :
    deed.worker.tuple? = some tuple := by
  rcases hSimulates with ⟨dir, hWorker⟩
  rw [hWorker]
  rfl

/- The move prepares the directory of the tuple by creating
   it where nothing stood. -/
structure Makes
    (sweep : Sweep)
    (tuple : Tuple)
    (deed : Deed σ) : Prop where
  worker : deed.worker = .preparing tuple
  creates :
    deed.before.tree.Creates (sweep.outputDir tuple)
      deed.after.tree

theorem Makes.tuple?_eq
    {tuple : Tuple}
    {deed : Deed σ}
    (hMakes : deed.Makes sweep tuple) :
    deed.worker.tuple? = some tuple := by
  rw [hMakes.worker]
  rfl

/- The move fails to prepare the directory of the tuple. -/
structure Refuses
    (sweep : Sweep)
    (tuple : Tuple)
    (e : DispatchError)
    (deed : Deed σ) : Prop where
  worker : deed.worker = .preparing tuple
  failed : (sweep.prepare tuple deed.before).1 = .error e

theorem Refuses.tuple?_eq
    {tuple : Tuple}
    {e : DispatchError}
    {deed : Deed σ}
    (hRefuses : deed.Refuses sweep tuple e) :
    deed.worker.tuple? = some tuple := by
  rw [hRefuses.worker]
  rfl

theorem Refuses.prepare_eq
    {tuple : Tuple}
    {e : DispatchError}
    {deed : Deed σ}
    (hRefuses : deed.Refuses sweep tuple e) :
    sweep.prepare tuple deed.before =
      (.error e, (sweep.prepare tuple deed.before).2) :=
  Prod.ext hRefuses.failed rfl

theorem Refuses.isAtWork
    {tuple : Tuple}
    {e : DispatchError}
    {deed : Deed σ}
    (hRefuses : deed.Refuses sweep tuple e) :
    deed.worker.IsAtWork := by
  rw [hRefuses.worker]
  trivial

/- The move changes nothing and calls nothing, though it may
   log something. -/
structure ChangesNothing (deed : Deed σ) : Prop where
  tree : deed.after.tree = deed.before.tree
  programs : deed.after.programs = deed.before.programs
  logged : ∀ event ∈ deed.events, event.IsLogged

theorem changesNothing_refl
    (worker : Worker)
    (w : World σ) :
    ChangesNothing { worker, before := w, after := w } :=
  { tree := rfl
    programs := rfl
    logged := by simp [events] }

theorem changesNothing_log
    (worker : Worker)
    (w : World σ)
    (level : Level)
    (message : String) :
    ChangesNothing
      { worker, before := w, after := w.log level message } :=
  { tree := rfl
    programs := rfl
    logged := by
      simp [events, World.log, World.record,
        Event.IsLogged] }

end Deed

------------------------------------------------------------
-- Deeds on a Tuple so Far
------------------------------------------------------------

variable {tuple : Tuple} {own : List (Deed σ)}
variable {deed : Deed σ}

/- No work was done on the tuple. -/
def IsUnprepared (own : List (Deed σ)) : Prop :=
  ∀ deed ∈ own,
    deed.ChangesNothing ∧ ¬ deed.worker.IsAtWork

theorem IsUnprepared.append
    (hOwn : IsUnprepared own)
    (hNothing : deed.ChangesNothing)
    (hAtWork : ¬ deed.worker.IsAtWork) :
    IsUnprepared (own ++ [deed]) :=
  List.forall_mem_append.mpr
    ⟨hOwn, List.forall_mem_singleton.mpr
      ⟨hNothing, hAtWork⟩⟩

/- The directory of the tuple was made. -/
structure IsPrepared
    (sweep : Sweep)
    (tuple : Tuple)
    (own : List (Deed σ)) : Prop where
  made : ∃ made ∈ own, made.Makes sweep tuple
  unrefused :
    ∀ deed ∈ own, ∀ e, ¬ deed.Refuses sweep tuple e

theorem IsPrepared.append
    (hOwn : IsPrepared sweep tuple own)
    (hBehind : deed.worker ≠ .preparing tuple) :
    IsPrepared sweep tuple (own ++ [deed]) := by
  rcases hOwn.made with ⟨made, hMade, hMakes⟩
  exact
    { made := ⟨made, List.mem_append_left _ hMade, hMakes⟩
      unrefused :=
        List.forall_mem_append.mpr
          ⟨hOwn.unrefused,
            List.forall_mem_singleton.mpr
              fun _ hRefuses => hBehind hRefuses.worker⟩ }

/- The directory is made by the first work on the tuple. -/
theorem IsUnprepared.makes
    (hOwn : IsUnprepared own)
    (hMakes : deed.Makes sweep tuple)
    (hUnrefused : ∀ e, ¬ deed.Refuses sweep tuple e) :
    IsPrepared sweep tuple (own ++ [deed]) := by
  refine
    { made :=
        ⟨deed, List.mem_append_right _ List.mem_cons_self,
          hMakes⟩
      unrefused :=
        List.forall_mem_append.mpr
          ⟨?_, List.forall_mem_singleton.mpr hUnrefused⟩ }
  intro other hOther e hRefuses
  exact (hOwn other hOther).2 hRefuses.isAtWork

/- The tuple was refused its directory, and nothing else was
   done about it. -/
structure IsRefused
    (sweep : Sweep)
    (tuple : Tuple)
    (e : DispatchError)
    (own : List (Deed σ)) : Prop where
  refused : ∃ deed ∈ own, deed.Refuses sweep tuple e
  only :
    ∀ deed ∈ own,
      ∀ other, deed.Refuses sweep tuple other → other = e
  unchanged : ∀ deed ∈ own, deed.ChangesNothing

theorem IsRefused.append
    {e : DispatchError}
    (hOwn : IsRefused sweep tuple e own)
    (hBehind : deed.worker ≠ .preparing tuple)
    (hNothing : deed.ChangesNothing) :
    IsRefused sweep tuple e (own ++ [deed]) := by
  rcases hOwn.refused with ⟨refusal, hRefusal, hRefuses⟩
  exact
    { refused :=
        ⟨refusal, List.mem_append_left _ hRefusal, hRefuses⟩
      only :=
        List.forall_mem_append.mpr
          ⟨hOwn.only,
            List.forall_mem_singleton.mpr
              fun _ hAgain => absurd hAgain.worker hBehind⟩
      unchanged :=
        List.forall_mem_append.mpr
          ⟨hOwn.unchanged,
            List.forall_mem_singleton.mpr hNothing⟩ }

/- The refusal is the first work on the tuple. -/
theorem IsUnprepared.refuses
    {e : DispatchError}
    (hOwn : IsUnprepared own)
    (hRefuses : deed.Refuses sweep tuple e)
    (hNothing : deed.ChangesNothing) :
    IsRefused sweep tuple e (own ++ [deed]) := by
  refine
    { refused :=
        ⟨deed, List.mem_append_right _ List.mem_cons_self,
          hRefuses⟩
      only := ?_
      unchanged := ?_ }
  · intro other hOther e' hAgain
    rcases List.mem_append.mp hOther with hOld | hNew
    · exact absurd hAgain.isAtWork (hOwn other hOld).2
    · rw [List.mem_singleton.mp hNew] at hAgain
      exact
        Except.error.inj
          (hAgain.failed.symm.trans hRefuses.failed)
  · intro other hOther
    rcases List.mem_append.mp hOther with hOld | hNew
    · exact (hOwn other hOld).1
    · rwa [List.mem_singleton.mp hNew]

------------------------------------------------------------
-- Fates
------------------------------------------------------------

/- What became of a tuple, and the report that says so. -/
inductive Fate
    (sweep : Sweep)
    (own : List (Deed σ))
    (report : RunReport) : Prop where
  | skipped
      (hOwn : IsUnprepared own)
      (hReport : report = sweep.skippedReport report.tuple)
  | refused {e}
      (hOwn : IsRefused sweep report.tuple e own)
      (hReport :
        report = sweep.report report.tuple (.error e) [])
  | prepared (hOwn : IsPrepared sweep report.tuple own)

/- What is done about a report does not change it. -/
theorem Fate.append
    {report : RunReport}
    (hFate : Fate sweep own report)
    (hAtWork : ¬ deed.worker.IsAtWork)
    (hNothing : deed.ChangesNothing) :
    Fate sweep (own ++ [deed]) report := by
  have hBehind :
      deed.worker ≠ .preparing report.tuple := by
    intro hPreparing
    rw [hPreparing] at hAtWork
    exact hAtWork trivial
  cases hFate with
  | skipped hOwn hReport =>
      exact .skipped (hOwn.append hNothing hAtWork) hReport
  | refused hOwn hReport =>
      exact .refused (hOwn.append hBehind hNothing) hReport
  | prepared hOwn => exact .prepared (hOwn.append hBehind)

/-
  No work was done on a tuple until its directory is about to
  be prepared, and the directory was made once programs are
  called for it. A report says what became of its tuple.
-/
def Stage.Fits
    (sweep : Sweep)
    (own : List (Deed σ)) : Stage → Prop
  | .waiting _
  | .held (.checking _)
  | .held (.preparing _) => IsUnprepared own
  | .held (.simulating tuple dir) =>
      dir = sweep.outputDir tuple ∧
        IsPrepared sweep tuple own
  | .held (.analyzing tuple _ _ _) =>
      IsPrepared sweep tuple own
  | .held (.judging report)
  | .held (.sending report)
  | .reported report => Fate sweep own report
  | .held .idle => True

/- An advance of the tuple keeps this. -/
theorem Advance.fits
    {before after : Stage}
    {flag flag' : Bool}
    {w w' : World σ}
    (hStrict : sweep.allowExisting = false)
    (hAdvance :
      Advance sweep runner before flag w after flag' w')
    (hBefore : before.Fits sweep own) :
    after.Fits sweep (own ++ Deed.ofStage before w w') := by
  cases hAdvance with
  | take | receive =>
      rw [Deed.append_ofStage own w w rfl]
      exact hBefore
  | proceed =>
      exact
        IsUnprepared.append hBefore
          (Deed.changesNothing_refl _ w) not_false
  | skip =>
      exact
        .skipped
          (IsUnprepared.append hBefore
            (Deed.changesNothing_refl _ w) not_false)
          rfl
  | @prepare tuple dir _ _ _ hPrepare =>
      rcases Sweep.prepare_eq_ok_of_strict hStrict
          hPrepare with ⟨rfl, hCreates⟩
      refine
        ⟨rfl,
          IsUnprepared.makes hBefore ⟨rfl, hCreates⟩ ?_⟩
      intro e hRefuses
      have hFailed := hRefuses.failed
      rw [hPrepare] at hFailed
      cases hFailed
  | @refuse tuple e _ _ next hPrepare =>
      rcases Sweep.prepare_eq_error hPrepare with ⟨rfl, -⟩
      refine .refused (IsUnprepared.refuses hBefore ?_ ?_) rfl
      · exact
          { worker := rfl
            failed := congrArg Prod.fst hPrepare }
      · exact Deed.changesNothing_log _ _ _ _
  | simulate => exact hBefore.2.append nofun
  | misfire => exact .prepared (hBefore.2.append nofun)
  | analyze => exact IsPrepared.append hBefore nofun
  | conclude =>
      exact .prepared (IsPrepared.append hBefore nofun)
  | alarm =>
      exact
        hBefore.append not_false
          (Deed.changesNothing_log _ _ _ _)
  | judge | send =>
      exact
        hBefore.append not_false
          (Deed.changesNothing_refl _ _)

/- So it holds of the whole life of a tuple. -/
theorem Life.fits
    {stage : Stage}
    (hStrict : sweep.allowExisting = false)
    (hLife : Life sweep runner tuple own stage) :
    stage.Fits sweep own := by
  induction hLife with
  | waiting => exact nofun
  | advance _ hAdvance ih => exact hAdvance.fits hStrict ih

/- Programs are called only behind the move that has made the
   directory. -/
theorem Life.exists_makes
    {stage : Stage}
    (hStrict : sweep.allowExisting = false)
    (hLife : Life sweep runner tuple own stage)
    (hDeed : deed ∈ own)
    {call : Invocation}
    (hCall : deed.worker.call? sweep = some call) :
    ∃ made,
      [made, deed].Sublist own ∧
        made.Makes sweep tuple := by
  rcases hLife.exists_of_mem hDeed with
    ⟨past, hPast, hOrder⟩
  have hFits := hPast.fits hStrict
  have hTuple := hPast.tuple?_eq
  have hMade : ∃ made ∈ past, made.Makes sweep tuple := by
    generalize deed.worker = worker at hCall hFits hTuple
    cases worker with
    | simulating =>
        cases hTuple
        exact hFits.2.made
    | analyzing =>
        cases hTuple
        exact hFits.made
    | idle | checking | preparing | judging | sending =>
        cases hCall
  rcases hMade with ⟨made, hMember, hMakes⟩
  have hBehind : [made, deed].Sublist (past ++ [deed]) :=
    (List.singleton_sublist.mpr hMember).append
      (List.Sublist.refl [deed])
  exact ⟨made, hBehind.trans hOrder, hMakes⟩

/- The simulator is called in the directory of the tuple. -/
theorem Life.dir_eq
    {stage : Stage}
    {dir : Path}
    (hStrict : sweep.allowExisting = false)
    (hLife : Life sweep runner tuple own stage)
    (hDeed : deed ∈ own)
    (hWorker : deed.worker = .simulating tuple dir) :
    dir = sweep.outputDir tuple := by
  rcases hLife.exists_of_mem hDeed with ⟨past, hPast, -⟩
  have hFits := hPast.fits hStrict
  rw [hWorker] at hFits
  exact hFits.1

end LatencySweep
