import LatencySweep.Proofs.Pool.Abort
import LatencySweep.Proofs.Pool.Fate
import LatencySweep.Proofs.Pool.Timeline
import Mathlib.Data.List.Pairwise

/-
  Directories are not used again.

  If existing directories may not be used, every program is
  called in a directory that the sweep has made for its
  tuple before, where nothing was. Since directories stay,
  no two tuples share one, and when the sweep is run again
  the tuples that were started are turned away.

  Main declarations:
    * `IsStarted`
    * `IsTurnedAway`
    * `Pool.isTurnedAway_of_refuses`
    * `Pool.isTurnedAway_of_occupied`
    * `Sweep.keepsToNewDirectories`
-/

namespace LatencySweep

variable {σ : Type}
variable {sweep : Sweep} {runner : Runner σ}

------------------------------------------------------------
-- Places of New Directories
------------------------------------------------------------

/- Where a directory is in trees with the same working
   directory. -/
def Sweep.placeOf
    (sweep : Sweep)
    (origin : FileTree)
    (tuple : Tuple) : Location :=
  (sweep.outputDir tuple).place origin.workDir

namespace Deed.Makes

variable {tuple : Tuple} {deed : Deed σ} {origin : FileTree}

theorem find?_before
    (hMakes : deed.Makes sweep tuple)
    (hKeeps : origin.KeepsDirectories deed.before.tree) :
    deed.before.tree.find? (sweep.placeOf origin tuple) =
      none := by
  unfold Sweep.placeOf
  rw [← hKeeps.workDir]
  exact hMakes.creates.fresh

theorem find?_after
    (hMakes : deed.Makes sweep tuple)
    (hKeeps : origin.KeepsDirectories deed.before.tree) :
    deed.after.tree.find? (sweep.placeOf origin tuple) =
      some .directory := by
  have hCreates := hMakes.creates
  unfold Sweep.placeOf
  rw [← hKeeps.workDir, ← hCreates.extends.workDir]
  exact
    (FileTree.isDirectory_iff.mp hCreates.isDirectory).2.2

/- A directory that was there before was not made. -/
theorem find?_origin
    (hMakes : deed.Makes sweep tuple)
    (hKeeps : origin.KeepsDirectories deed.before.tree) :
    origin.find? (sweep.placeOf origin tuple) ≠
      some .directory := by
  intro hFind
  have hStays := hKeeps.directories _ hFind
  rw [hMakes.find?_before hKeeps] at hStays
  cases hStays

end Deed.Makes

/- In the course of a sweep, no two tuples make a directory
   at the same place. -/
theorem IsTimeline.placeOf_ne
    {origin : FileTree}
    {past : List (Deed σ)}
    {w : World σ}
    {one other : Tuple}
    {first second : Deed σ}
    (hTime : IsTimeline origin past w)
    (hFirst : first ∈ past)
    (hMakes : first.Makes sweep one)
    (hSecond : second ∈ past)
    (hMakes' : second.Makes sweep other)
    (hTuples : one ≠ other) :
    sweep.placeOf origin one ≠ sweep.placeOf origin other := by
  intro hSame
  have hDeeds : first ≠ second := by
    rintro rfl
    apply hTuples
    exact
      Worker.preparing.inj
        (hMakes.worker.symm.trans hMakes'.worker)
  have hBefore := hMakes.find?_before (hTime.before _ hFirst)
  have hBefore' :=
    hMakes'.find?_before (hTime.before _ hSecond)
  have hAfter := hMakes.find?_after (hTime.before _ hFirst)
  have hAfter' :=
    hMakes'.find?_after (hTime.before _ hSecond)
  -- One of them comes first, and its directory stays.
  let Ordered (a b : Deed σ) : Prop :=
    a.after.tree.KeepsDirectories b.before.tree ∨
      b.after.tree.KeepsDirectories a.before.tree
  have hOrdered : past.Pairwise Ordered :=
    hTime.order.imp Or.inl
  have : Std.Symm Ordered := ⟨fun _ _ => Or.symm⟩
  rcases hOrdered.forall hFirst hSecond hDeeds with
    hKeeps | hKeeps
  · have hStays := hKeeps.directories _ hAfter
    rw [hSame, hBefore'] at hStays
    cases hStays
  · have hStays := hKeeps.directories _ hAfter'
    rw [← hSame, hBefore] at hStays
    cases hStays

/- In the end, the directories that were made are there. -/
theorem IsTimeline.find?_of_makes
    {origin : FileTree}
    {past : List (Deed σ)}
    {w : World σ}
    {tuple : Tuple}
    {made : Deed σ}
    (hTime : IsTimeline origin past w)
    (hMade : made ∈ past)
    (hMakes : made.Makes sweep tuple) :
    w.tree.find? (sweep.placeOf w.tree tuple) =
      some .directory := by
  have hAfter := hMakes.find?_after (hTime.before made hMade)
  have hStays := (hTime.after made hMade).directories _ hAfter
  unfold Sweep.placeOf at hStays ⊢
  rwa [hTime.throughout.workDir]

------------------------------------------------------------
-- Tuples That Are Turned Away
------------------------------------------------------------

/- The simulator was called for the tuple. -/
def IsStarted
    (past : List (Deed σ))
    (tuple : Tuple) : Prop :=
  ∃ call ∈ past, call.Simulates tuple

/-
  No move on the tuple has changed or called anything, and
  its report says that its directory was not created.
-/
structure IsTurnedAway
    (sweep : Sweep)
    (past : List (Deed σ))
    (reports : List RunReport)
    (tuple : Tuple)
    (e : DispatchError) : Prop where
  unchanged :
    ∀ deed ∈ past,
      deed.worker.tuple? = some tuple → deed.ChangesNothing
  reported : ∃ report ∈ reports, report.tuple = tuple
  failed :
    ∀ report ∈ reports,
      report.tuple = tuple →
        report.status = .dispatchFailed ∧
          report.simulator = some (.error e) ∧
          report.analyses = []
  cause :
    ∃ cause, e = .createDir (sweep.outputDir tuple) cause

/- A preparation that fails decides on the fate. -/
theorem Fate.of_refuses
    {own : List (Deed σ)}
    {report : RunReport}
    {deed : Deed σ}
    {e : DispatchError}
    (hFate : Fate sweep own report)
    (hDeed : deed ∈ own)
    (hRefuses : deed.Refuses sweep report.tuple e) :
    IsRefused sweep report.tuple e own ∧
      report = sweep.report report.tuple (.error e) [] := by
  cases hFate with
  | skipped hOwn =>
      exact absurd hRefuses.isAtWork (hOwn deed hDeed).2
  | refused hOwn hReport =>
      cases hOwn.only deed hDeed e hRefuses
      exact ⟨hOwn, hReport⟩
  | prepared hOwn =>
      exact absurd hRefuses (hOwn.unrefused deed hDeed e)

namespace Pool

variable {moves : List Move} {w : World σ} {pool : Pool σ}
variable {tuple : Tuple} {deed : Deed σ}
variable
  (hStrict : sweep.allowExisting = false)
  (hFollow :
    (start sweep w).follow? sweep runner moves = some pool)
include hStrict hFollow

/- Programs are called only behind the move that has made the
   directory of the tuple. -/
theorem exists_makes_of_call
    (hDeed :
      deed ∈ (start sweep w).deeds sweep runner moves)
    {call : Invocation}
    (hCall : call ∈ deed.invocations) :
    ∃ tuple made,
      deed.worker.tuple? = some tuple ∧
        [made, deed].Sublist
            ((start sweep w).deeds sweep runner moves) ∧
          made.Makes sweep tuple := by
  rw [invocations_of_deed hFollow deed hDeed,
    Option.mem_toList] at hCall
  rcases Worker.exists_tuple_of_call? hCall with
    ⟨tuple, hTuple⟩
  rcases life_of_deed hFollow hDeed hTuple with
    ⟨stage, -, hLife⟩
  have hOwn := mem_deedsOn_iff.mpr ⟨hDeed, hTuple⟩
  rcases hLife.exists_makes hStrict hOwn hCall with
    ⟨made, hOrder, hMakes⟩
  exact
    ⟨tuple, made, hTuple,
      hOrder.trans List.filter_sublist, hMakes⟩

/- The simulator is called with that directory. -/
theorem invocations_of_simulates
    (hDeed :
      deed ∈ (start sweep w).deeds sweep runner moves)
    (hCall : deed.Simulates tuple) :
    deed.invocations =
      [sweep.simulatorInvocation tuple
        (sweep.outputDir tuple)] := by
  have hTuple := hCall.tuple?_eq
  rcases hCall with ⟨dir, hWorker⟩
  rcases life_of_deed hFollow hDeed hTuple with
    ⟨stage, -, hLife⟩
  have hOwn := mem_deedsOn_iff.mpr ⟨hDeed, hTuple⟩
  have hDir := hLife.dir_eq hStrict hOwn hWorker
  rw [invocations_of_deed hFollow deed hDeed, hWorker, hDir]
  rfl

/- A tuple that was started has made its directory. -/
theorem exists_makes_of_isStarted
    (hStarted :
      IsStarted ((start sweep w).deeds sweep runner moves)
        tuple) :
    ∃ made ∈ (start sweep w).deeds sweep runner moves,
      made.Makes sweep tuple := by
  rcases hStarted with ⟨call, hCall, hSimulates⟩
  have hInvoked :
      sweep.simulatorInvocation tuple
          (sweep.outputDir tuple) ∈
        call.invocations := by
    rw [invocations_of_simulates hStrict hFollow hCall
      hSimulates]
    exact List.mem_cons_self
  rcases exists_makes_of_call hStrict hFollow hCall
      hInvoked with ⟨other, made, hOther, hOrder, hMakes⟩
  rw [hSimulates.tuple?_eq] at hOther
  cases hOther
  exact ⟨made, hOrder.subset List.mem_cons_self, hMakes⟩

/- Only tuples of the grid are worked on. -/
omit hStrict in
theorem mem_grid_of_deed
    (hDone : pool.IsDone)
    (hDeed :
      deed ∈ (start sweep w).deeds sweep runner moves)
    (hTuple : deed.worker.tuple? = some tuple) :
    tuple ∈ sweep.grid.tuples := by
  rcases exists_received_of_deed hFollow hDone hDeed
      hTuple with ⟨report, hReport, rfl⟩
  apply (received_perm_grid hFollow hDone).subset
  exact List.mem_map_of_mem hReport

variable {reports : List RunReport}
variable
  (hDone : pool.IsDone)
  (hPerm : reports.Perm pool.received)
include hDone hPerm

/- A report tells the fate of its tuple. -/
theorem fate_of_report
    {report : RunReport}
    (hReport : report ∈ reports) :
    Fate sweep
      (deedsOn report.tuple
        ((start sweep w).deeds sweep runner moves))
      report :=
  (life_of_received hFollow hDone
    (hPerm.subset hReport)).fits hStrict

/- A tuple whose directory cannot be prepared is turned
   away. -/
theorem isTurnedAway_of_refuses
    {e : DispatchError}
    (hDeed :
      deed ∈ (start sweep w).deeds sweep runner moves)
    (hRefuses : deed.Refuses sweep tuple e) :
    IsTurnedAway sweep
      ((start sweep w).deeds sweep runner moves) reports
      tuple e := by
  have hTuple := hRefuses.tuple?_eq
  have hOwn := mem_deedsOn_iff.mpr ⟨hDeed, hTuple⟩
  rcases exists_received_of_deed hFollow hDone hDeed
      hTuple with ⟨received, hReceived, rfl⟩
  have hDecided {report : RunReport}
      (hReport : report ∈ reports)
      (hSame : report.tuple = received.tuple) :
      IsRefused sweep received.tuple e
          (deedsOn received.tuple
            ((start sweep w).deeds sweep runner moves)) ∧
        report = sweep.report received.tuple (.error e) [] := by
    have hFate :=
      fate_of_report hStrict hFollow hDone hPerm hReport
    rw [← hSame] at hOwn hRefuses ⊢
    exact hFate.of_refuses hOwn hRefuses
  have hMember := hPerm.symm.subset hReceived
  refine
    { unchanged := ?_
      reported := ⟨received, hMember, rfl⟩
      failed := ?_
      cause := ?_ }
  · intro other hOther hAgain
    apply (hDecided hMember rfl).1.unchanged
    exact mem_deedsOn_iff.mpr ⟨hOther, hAgain⟩
  · intro report hReport hSame
    rw [(hDecided hReport hSame).2]
    exact ⟨rfl, rfl, rfl⟩
  · exact (Sweep.prepare_eq_error hRefuses.prepare_eq).2

/- If no run calls for an abort, a tuple with a directory at
   its place is turned away. -/
theorem isTurnedAway_of_occupied
    (hKeeps : runner.KeepsDirectories)
    (hPolicy :
      ∀ report ∈ reports, report.status ≠ .skipped)
    {origin : FileTree}
    (hOrigin : origin.KeepsDirectories w.tree)
    (hTuple : tuple ∈ sweep.grid.tuples)
    (hOccupied :
      origin.find? (sweep.placeOf origin tuple) =
        some .directory) :
    ∃ e,
      IsTurnedAway sweep
        ((start sweep w).deeds sweep runner moves) reports
        tuple e := by
  have hGrid := received_perm_grid hFollow hDone
  rcases List.mem_map.mp (hGrid.symm.subset hTuple) with
    ⟨report, hReceived, rfl⟩
  have hReport := hPerm.symm.subset hReceived
  have hTime := isTimeline_of_follow hKeeps hFollow hOrigin
  cases fate_of_report hStrict hFollow hDone hPerm hReport with
  | skipped _ hSkipped =>
      exfalso
      apply hPolicy report hReport
      rw [hSkipped]
      rfl
  | refused hOwn =>
      rcases hOwn.refused with ⟨deed, hDeed, hRefuses⟩
      exact
        ⟨_, isTurnedAway_of_refuses hStrict hFollow hDone
          hPerm (mem_deedsOn_iff.mp hDeed).1 hRefuses⟩
  | prepared hOwn =>
      rcases hOwn.made with ⟨made, hMade, hMakes⟩
      have hMember := (mem_deedsOn_iff.mp hMade).1
      have hNew := hMakes.find?_origin (hTime.before _ hMember)
      exact absurd hOccupied hNew

end Pool

------------------------------------------------------------
-- Running a Sweep Again
------------------------------------------------------------

namespace Sweep

/- Where its output root is there, a sweep whose simulator can
   be built starts. -/
theorem exists_start_of_hasRoot
    {w : World σ}
    (hValid : sweep.defect? = none)
    (hRoot : w.tree.HasRoot sweep.outputRoot)
    (hBuild : (sweep.build runner w).1 = .ok ()) :
    ∃ ready, sweep.start runner w = (.ok (), ready) := by
  have hCreate : sweep.createRoot w = (.ok (), w) := by
    unfold createRoot
    dsimp only
    rw [FileTree.createDirectories_of_isDirectory hRoot]
  unfold start
  rw [hValid, hCreate]
  dsimp only
  rcases hBuilt : sweep.build runner w with ⟨e | _, built⟩
  · rw [hBuilt] at hBuild
    cases hBuild
  · exact ⟨_, rfl⟩

/-
  Unless failures abort it, whoever runs the sweep on the
  tree with its simulator built, and however the workers are
  timed, the tuples that were started before are turned
  away.
-/
def TurnsAwayAgain
    (sweep : Sweep)
    (past : List (Deed σ))
    (tree : FileTree) : Prop :=
  sweep.onFailure ≠ .abort →
    ∀ {τ : Type} {runner : Runner τ} {schedule : List Move}
      {w final : World τ}
      {result : Except SweepError SweepSummary},
      runner.KeepsDirectories →
      w.tree = tree →
      (sweep.build runner w).1 = .ok () →
      sweep.runScheduled? runner schedule w =
        some (result, final) →
      ∃ summary,
        result = .ok summary ∧
          ∀ tuple,
            IsStarted past tuple →
              ∃ e,
                IsTurnedAway sweep
                  (sweep.deeds runner schedule w)
                  summary.reports tuple e

/- Tuples whose directories are there are turned away. -/
theorem turnsAwayAgain_of_occupied
    {past : List (Deed σ)}
    {tree : FileTree}
    (hStrict : sweep.allowExisting = false)
    (hValid : sweep.defect? = none)
    (hRoot : tree.HasRoot sweep.outputRoot)
    (hStarted :
      ∀ tuple,
        IsStarted past tuple →
          tuple ∈ sweep.grid.tuples ∧
            tree.find? (sweep.placeOf tree tuple) =
              some .directory) :
    sweep.TurnsAwayAgain past tree := by
  intro hPolicy τ runner schedule w final result hKeeps hTree
    hBuild hRun
  subst hTree
  rcases exists_start_of_hasRoot hValid hRoot hBuild with
    ⟨ready, hStart⟩
  rcases exists_summary_of_start hStart hRun with
    ⟨summary, rfl⟩
  refine ⟨summary, rfl, ?_⟩
  intro tuple hTuple
  rcases hStarted tuple hTuple with ⟨hMember, hOccupied⟩
  rcases runScheduled?_eq_ok hRun with
    ⟨_, pool, hStart', hFollow, hDone, hReports, -⟩
  rw [hStart] at hStart'
  cases hStart'
  have hPerm : summary.reports.Perm pool.received := by
    rw [hReports]
    exact inGridOrder_perm pool.received
  have hUnskipped :
      ∀ report ∈ summary.reports,
        report.status ≠ .skipped := by
    intro report hReport hSkipped
    have hWatched :=
      Pool.isWatched_of_follow
        (World.adds_start runner hStart) hFollow
    rcases Pool.exists_aborting_of_skipped hWatched hDone
        hPerm hReport hSkipped with ⟨other, -, hAborting⟩
    exact hPolicy (isAborting_iff.mp hAborting).1
  have hReady := (keepsDirectories_start hKeeps hStart).1
  rw [deeds, hStart]
  exact
    Pool.isTurnedAway_of_occupied hStrict hFollow hDone hPerm
      hKeeps hUnskipped hReady hMember hOccupied

------------------------------------------------------------
-- New Directories Only
------------------------------------------------------------

/-
  What holds of every sweep that returns a summary and may
  not use existing directories. Apart from the summary
  itself, all events since the start are accounted for by
  the deeds of the workers.
-/
structure KeepsToNewDirectories
    (sweep : Sweep)
    (runner : Runner σ)
    (schedule : List Move)
    (w : World σ)
    (summary : SweepSummary)
    (final : World σ) : Prop where
  accounted :
    final.events =
      (sweep.start runner w).2.events ++
        (sweep.deeds runner schedule w).flatMap
          Deed.events ++
        [.logged .info summary.toText]
  simulated :
    ∀ deed ∈ sweep.deeds runner schedule w,
      ∀ tuple,
        deed.Simulates tuple →
          deed.invocations =
            [sweep.simulatorInvocation tuple
              (sweep.outputDir tuple)]
  made_before_calls :
    ∀ deed ∈ sweep.deeds runner schedule w,
      ∀ call ∈ deed.invocations,
        ∃ tuple made,
          deed.worker.tuple? = some tuple ∧
            [made, deed].Sublist
                (sweep.deeds runner schedule w) ∧
              made.Makes sweep tuple
  separate :
    ∀ one other,
      IsStarted (sweep.deeds runner schedule w) one →
        IsStarted (sweep.deeds runner schedule w) other →
          one ≠ other →
            sweep.placeOf w.tree one ≠
              sweep.placeOf w.tree other
  new :
    ∀ tuple,
      IsStarted (sweep.deeds runner schedule w) tuple →
        w.tree.find? (sweep.placeOf w.tree tuple) ≠
          some .directory
  refused :
    ∀ deed ∈ sweep.deeds runner schedule w,
      ∀ tuple e,
        deed.Refuses sweep tuple e →
          IsTurnedAway sweep (sweep.deeds runner schedule w)
            summary.reports tuple e
  again :
    sweep.TurnsAwayAgain (sweep.deeds runner schedule w)
      final.tree

/-
  However the workers are timed, a sweep that may not use
  existing directories calls programs only for tuples whose
  directory it has made itself, where nothing was. Others
  are turned away, and so are those that were started when
  the sweep is run again.
-/
theorem keepsToNewDirectories
    {schedule : List Move}
    {w final : World σ}
    {summary : SweepSummary}
    (hStrict : sweep.allowExisting = false)
    (hKeeps : runner.KeepsDirectories)
    (hRun :
      sweep.runScheduled? runner schedule w =
        some (.ok summary, final)) :
    KeepsToNewDirectories sweep runner schedule w summary
      final := by
  rcases runScheduled?_eq_ok hRun with
    ⟨ready, pool, hStart, hFollow, hDone, hReports, rfl⟩
  have hPerm : summary.reports.Perm pool.received := by
    rw [hReports]
    exact inGridOrder_perm pool.received
  have hDeeds :
      sweep.deeds runner schedule w =
        (Pool.start sweep ready).deeds sweep runner
          schedule := by
    rw [deeds, hStart]
  rcases keepsDirectories_start hKeeps hStart with
    ⟨hReady, hRoot⟩
  have hTime :=
    Pool.isTimeline_of_follow hKeeps hFollow hReady
  have hMakes {tuple : Tuple}
      (hTuple :
        IsStarted
          ((Pool.start sweep ready).deeds sweep runner
            schedule)
          tuple) :=
    Pool.exists_makes_of_isStarted hStrict hFollow hTuple
  constructor
  case accounted =>
    rw [hDeeds, hStart]
    have hEvents := Pool.events_of_deeds hFollow
    exact congrArg (· ++ [_]) hEvents
  case simulated =>
    rw [hDeeds]
    intro deed hDeed tuple
    exact Pool.invocations_of_simulates hStrict hFollow hDeed
  case made_before_calls =>
    rw [hDeeds]
    intro deed hDeed call
    exact Pool.exists_makes_of_call hStrict hFollow hDeed
  case separate =>
    rw [hDeeds]
    intro one other hOne hOther hTuples
    rcases hMakes hOne with ⟨first, hFirst, hMade⟩
    rcases hMakes hOther with ⟨second, hSecond, hMade'⟩
    exact
      hTime.placeOf_ne hFirst hMade hSecond hMade' hTuples
  case new =>
    rw [hDeeds]
    intro tuple hTuple
    rcases hMakes hTuple with ⟨made, hMade, hMade'⟩
    exact hMade'.find?_origin (hTime.before made hMade)
  case refused =>
    rw [hDeeds]
    intro deed hDeed tuple e
    exact
      Pool.isTurnedAway_of_refuses hStrict hFollow hDone
        hPerm hDeed
  case again =>
    rcases start_eq_ok runner hStart with
      ⟨_, _, hValid, -, -, -⟩
    have hSince :=
      Pool.isTimeline_of_follow hKeeps hFollow
        (FileTree.keepsDirectories_refl ready.tree)
    rw [hDeeds, World.tree_log]
    refine
      turnsAwayAgain_of_occupied hStrict hValid
        (hRoot.imp_right hSince.throughout.isDirectory) ?_
    intro tuple hTuple
    rcases hMakes hTuple with ⟨made, hMade, hMade'⟩
    exact
      ⟨Pool.mem_grid_of_deed hFollow hDone hMade
          hMade'.tuple?_eq,
        hTime.find?_of_makes hMade hMade'⟩

/- Run twice, all three tuples are started and then turned
   away. The second time, each has four moves. -/
def retry : List Move :=
  [.take 0 0] ++ List.replicate 4 (.advance 0) ++
    [.take 1 0] ++ List.replicate 4 (.advance 1) ++
    [.take 0 0] ++ List.replicate 4 (.advance 0) ++
    List.replicate 3 .receive

theorem keepsToNewDirectories_twice :
    ∃ summary final,
      (trio .ignore).runScheduled? (Script.runner [])
          crossing (World.start FileTree.empty ()) =
        some (.ok summary, final) ∧
      KeepsToNewDirectories (trio .ignore)
        (Script.runner []) crossing
        (World.start FileTree.empty ()) summary final ∧
      ∃ again last,
        (trio .ignore).runScheduled? (Script.runner [])
            retry (World.start final.tree ()) =
          some (.ok again, last) ∧
        ∀ tuple,
          IsStarted
              ((trio .ignore).deeds (Script.runner [])
                crossing (World.start FileTree.empty ()))
              tuple →
            ∃ e,
              IsTurnedAway (trio .ignore)
                ((trio .ignore).deeds (Script.runner [])
                  retry (World.start final.tree ()))
                again.reports tuple e := by
  have hOk :
      (((trio .ignore).runScheduled? (Script.runner [])
        crossing (World.start FileTree.empty ())).map
          fun r => r.1.isOk) = some true := by
    decide +kernel
  have hAgain :
      (((trio .ignore).runScheduled? (Script.runner [])
        crossing (World.start FileTree.empty ())).bind
          fun r =>
            ((trio .ignore).runScheduled? (Script.runner [])
              retry (World.start r.2.tree ())).map
                fun r => r.1.isOk) = some true := by
    decide +kernel
  have hKeeps := Script.keepsDirectories_runner []
  rcases exists_of_isOk hOk with ⟨summary, final, hRun⟩
  rw [hRun] at hAgain
  rcases exists_of_isOk hAgain with ⟨again, last, hRerun⟩
  have hNew := keepsToNewDirectories rfl hKeeps hRun
  refine
    ⟨summary, final, hRun, hNew, again, last, hRerun, ?_⟩
  have hPolicy : (trio .ignore).onFailure ≠ .abort := by
    decide
  let tree := (World.start final.tree ()).tree
  rcases hNew.again hPolicy hKeeps (rfl : tree = final.tree)
      rfl hRerun with ⟨other, hOther, hTurned⟩
  cases hOther
  exact hTurned

end Sweep

end LatencySweep
