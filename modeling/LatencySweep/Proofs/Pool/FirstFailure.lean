import LatencySweep.Proofs.Pool.Lockstep
import LatencySweep.Proofs.Sweep.Validity

/-
  A sweep of one worker stops at the first failure.

  The reports of such a sweep tell where it was cut short:
  at the only run that went wrong before its analyses. What
  the sweep called and made is read off a sweep that ignores
  failures, by the numbers of the tuples.

  Main declarations:
    * `IsCutAt`
    * `Sweep.StopsAtFailure`
    * `Sweep.stopsAtFailure`
-/

namespace LatencySweep

variable {σ : Type}
variable {sweep : Sweep} {runner : Runner σ}

------------------------------------------------------------
-- Sweeps That Stop
------------------------------------------------------------

/- The run with the number went wrong before its analyses.
   Those before it did not, and those behind it were
   skipped. -/
structure IsCutAt
    (reports : List RunReport)
    (number : Nat) : Prop where
  passed :
    ∀ place report,
      reports[place]? = some report →
        place < number → report.IsPassed
  broken :
    ∃ report,
      reports[number]? = some report ∧ report.IsBroken
  skipped :
    ∀ place report,
      reports[place]? = some report →
        number < place → report.status = .skipped

theorem isCutAt_append
    {early late : List RunReport}
    {report : RunReport}
    (hEarly : ∀ other ∈ early, other.IsPassed)
    (hBroken : report.IsBroken)
    (hLate : ∀ other ∈ late, other.status = .skipped) :
    IsCutAt (early ++ report :: late) early.length where
  passed := by
    intro place other hOther hLess
    rw [List.getElem?_append_left hLess] at hOther
    exact hEarly other (List.mem_of_getElem? hOther)
  broken := ⟨report, by simp, hBroken⟩
  skipped := by
    intro place other hOther hLess
    rw [List.getElem?_append_right (Nat.le_of_lt hLess),
      List.getElem?_cons, if_neg (by omega)] at hOther
    exact hLate other (List.mem_of_getElem? hOther)

theorem RunReport.IsBroken.not_skipped
    {report : RunReport}
    (hBroken : report.IsBroken) :
    report.status ≠ .skipped := by
  rcases hBroken with hStatus | hStatus <;> simp [hStatus]

namespace IsCutAt

variable {reports : List RunReport} {number : Nat}

theorem not_forall_isPassed
    (hCut : IsCutAt reports number) :
    ¬ ∀ report ∈ reports, report.IsPassed := by
  rcases hCut.broken with ⟨report, hReport, hBroken⟩
  intro hPassed
  have hMem := List.mem_of_getElem? hReport
  exact (hPassed report hMem).not_isBroken hBroken

/- There is only one such number. -/
theorem unique
    {other : Nat}
    (hCut : IsCutAt reports number)
    (hOther : IsCutAt reports other) :
    number = other := by
  rcases hCut.broken with ⟨report, hReport, hBroken⟩
  rcases Nat.lt_trichotomy number other with
    hLess | hSame | hGreater
  · exact
      absurd hBroken
        (hOther.passed _ _ hReport hLess).not_isBroken
  · exact hSame
  · exact
      absurd (hOther.skipped _ _ hReport hGreater)
        hBroken.not_skipped

end IsCutAt

namespace Sweep

/- Both sweeps start alike. -/
theorem start_ignoring
    (sweep : Sweep)
    (runner : Runner σ)
    (w : World σ) :
    sweep.ignoring.start runner w =
      sweep.start runner w := by
  have hCollision :
      sweep.ignoring.collision? = sweep.collision? :=
    collision?_congr rfl rfl
  have hDefect : sweep.ignoring.defect? = sweep.defect? := by
    unfold defect?
    rw [hCollision]
    rfl
  unfold start
  rw [hDefect]
  rfl

/- The effects of a sweep are those of its start and of its
   deeds. -/
theorem effects_of_events
    {w ready final : World σ}
    {schedule : List Move}
    {text : String}
    (hEvents :
      final.events =
        ready.events ++
          (sweep.deeds runner schedule w).flatMap
            Deed.events ++
          [.logged .info text]) :
    final.effects =
      ready.effects ++
        effectsOf (sweep.deeds runner schedule w) := by
  unfold World.effects effectsOf
  rw [hEvents, List.filter_append, List.filter_append]
  exact List.append_nil _

/- What both sweeps do, side by side. -/
theorem RunsInOrder.exists_cutsShort
    {schedule other : List Move}
    {w final last : World σ}
    {summary complete : SweepSummary}
    (hPolicy : sweep.onFailure = .abort)
    (hAlone : sweep.concurrency = 1)
    (hRuns :
      sweep.RunsInOrder runner schedule w summary final)
    (hOther :
      sweep.ignoring.RunsInOrder runner other w complete
        last) :
    let start := (sweep.ignoring.start runner w).2
    let deeds := sweep.deeds runner schedule w
    let all := sweep.ignoring.deeds runner other w
    CutsShort .idle sweep.grid.tuples deeds summary.reports
        all ∧
      final.effects = start.effects ++ effectsOf deeds ∧
      last.effects = start.effects ++ effectsOf all := by
  rcases hRuns.exists_plays hAlone with
    ⟨ready, hStart, hPlays, hEvents⟩
  have hAlso : sweep.ignoring.concurrency = 1 := hAlone
  rcases hOther.exists_plays hAlso with
    ⟨same, hSame, hOtherPlays, hOtherEvents⟩
  rw [start_ignoring, hStart] at hSame
  cases hSame
  rw [start_ignoring, hStart]
  exact
    ⟨hPlays.cutsShort hPolicy rfl trivial
        sweep.grid.pairwise_tuples hOtherPlays,
      effects_of_events hEvents,
      effects_of_events hOtherEvents⟩

/- Either both do the same to the end, or the numbers of the
   reports tell where one of them stops. -/
theorem RunsInOrder.ends
    {schedule other : List Move}
    {w final last : World σ}
    {summary complete : SweepSummary}
    (hPolicy : sweep.onFailure = .abort)
    (hAlone : sweep.concurrency = 1)
    (hRuns :
      sweep.RunsInOrder runner schedule w summary final)
    (hOther :
      sweep.ignoring.RunsInOrder runner other w complete
        last) :
    let all := sweep.ignoring.deeds runner other w
    ((∀ report ∈ summary.reports, report.IsPassed) ∧
        final.effects = last.effects) ∨
      ∃ number,
        IsCutAt summary.reports number ∧
          final.effects =
            (sweep.ignoring.start runner w).2.effects ++
              effectsOf (all.filter (Deed.isBefore number)) ++
              effectsOf
                (all.filter (Deed.isDispatch number)) := by
  have hTuples := hRuns.map_tuple hAlone
  rcases hRuns.exists_cutsShort hPolicy hAlone hOther with
    ⟨hCut, hFinal, hLast⟩
  dsimp only at hCut hFinal hLast ⊢
  generalize summary.reports = reports at hCut hTuples ⊢
  generalize sweep.deeds runner schedule w = deeds
    at hCut hFinal
  cases hCut with
  | never hPassed =>
      exact Or.inl ⟨hPassed, hFinal.trans hLast.symm⟩
  | @cut _ early report late hEarly hBroken hLate _ hEffects =>
      have hThere :
          sweep.grid.tuples[early.length]? =
            some report.tuple := by
        simp [← hTuples]
      rw [Grid.index_of_getElem?_tuples hThere] at hEffects
      refine
        Or.inr
          ⟨early.length, isCutAt_append hEarly hBroken hLate,
            ?_⟩
      rw [hFinal, hEffects, List.append_assoc]

/-
  With one worker that takes the tuples in order, a sweep
  that is to be aborted stops at the first run that goes
  wrong before its analyses. It calls the programs and makes
  the directories that it would if failures were ignored, as
  far as they belong to the tuples before this one, and then
  those of this tuple without its analyses.
-/
structure StopsAtFailure
    (sweep : Sweep)
    (runner : Runner σ)
    (w : World σ) : Prop where
  returns :
    ∀ ready,
      sweep.start runner w = (.ok (), ready) →
        (∃ schedule summary final,
          sweep.RunsInOrder runner schedule w summary
            final) ∧
        ∃ other complete last,
          sweep.ignoring.RunsInOrder runner other w complete
            last
  statuses :
    ∀ schedule summary final,
      sweep.RunsInOrder runner schedule w summary final →
        (∀ report ∈ summary.reports, report.IsPassed) ∨
          ∃ number, IsCutAt summary.reports number
  effects_of_passed :
    ∀ schedule summary final other complete last,
      sweep.RunsInOrder runner schedule w summary final →
        sweep.ignoring.RunsInOrder runner other w complete
          last →
        (∀ report ∈ summary.reports, report.IsPassed) →
          final.effects = last.effects
  effects_of_cut :
    ∀ schedule summary final other complete last number,
      sweep.RunsInOrder runner schedule w summary final →
        sweep.ignoring.RunsInOrder runner other w complete
          last →
        IsCutAt summary.reports number →
          let all := sweep.ignoring.deeds runner other w
          final.effects =
            (sweep.ignoring.start runner w).2.effects ++
              effectsOf (all.filter (Deed.isBefore number)) ++
              effectsOf
                (all.filter (Deed.isDispatch number))

/- Both sweeps can be run so. -/
theorem exists_both_runsInOrder
    (hAlone : sweep.concurrency = 1)
    {w ready : World σ}
    (hStart : sweep.start runner w = (.ok (), ready)) :
    (∃ schedule summary final,
        sweep.RunsInOrder runner schedule w summary final) ∧
      ∃ other complete last,
        sweep.ignoring.RunsInOrder runner other w complete
          last := by
  have hWorkers : 0 < sweep.concurrency :=
    hAlone ▸ Nat.one_pos
  have hAlso : 0 < sweep.ignoring.concurrency := hWorkers
  have hSame :
      sweep.ignoring.start runner w = (.ok (), ready) := by
    rw [start_ignoring]
    exact hStart
  exact
    ⟨exists_runsInOrder hWorkers hStart,
      exists_runsInOrder hAlso hSame⟩

theorem stopsAtFailure
    (hPolicy : sweep.onFailure = .abort)
    (hAlone : sweep.concurrency = 1)
    (runner : Runner σ)
    (w : World σ) :
    sweep.StopsAtFailure runner w := by
  have hBoth
      {schedule other : List Move}
      {final last : World σ}
      {summary complete : SweepSummary}
      (hRuns :
        sweep.RunsInOrder runner schedule w summary final)
      (hOther :
        sweep.ignoring.RunsInOrder runner other w complete
          last) :=
    hRuns.ends hPolicy hAlone hOther
  constructor
  case returns =>
    exact fun ready hStart =>
      exists_both_runsInOrder hAlone hStart
  case statuses =>
    intro schedule summary final hRuns
    rcases hRuns.exists_plays hAlone with
      ⟨ready, hStart, -, -⟩
    rcases (exists_both_runsInOrder hAlone hStart).2 with
      ⟨other, complete, last, hOther⟩
    rcases hBoth hRuns hOther with
      ⟨hPassed, -⟩ | ⟨number, hCut, -⟩
    · exact Or.inl hPassed
    · exact Or.inr ⟨number, hCut⟩
  case effects_of_passed =>
    intro schedule summary final other complete last hRuns
      hOther hPassed
    rcases hBoth hRuns hOther with
      ⟨-, hSame⟩ | ⟨number, hCut, -⟩
    · exact hSame
    · exact absurd hPassed hCut.not_forall_isPassed
  case effects_of_cut =>
    intro schedule summary final other complete last number
      hRuns hOther hCut
    rcases hBoth hRuns hOther with
      ⟨hPassed, -⟩ | ⟨found, hFound, hEffects⟩
    · exact absurd hPassed hCut.not_forall_isPassed
    · cases hCut.unique hFound
      exact hEffects

------------------------------------------------------------
-- A Failure in the Middle
------------------------------------------------------------

/- Three tuples for one worker. -/
def lone : Sweep :=
  { trio .abort with concurrency := 1 }

/- All analyses fail, and so does the second simulation. -/
def failingLater : Runner Unit :=
  Script.runner
    [ { needle := "wc", ending := .exits (some 1) ⟨0⟩ },
      { needle := "--rate=2"
        ending := .exits (some 1) ⟨0⟩ } ]

/- The first tuple is analyzed, the second one is not, and
   the last one is skipped. -/
theorem stopsAtFailure_lone :
    lone.onFailure = .abort ∧ lone.concurrency = 1 ∧
      lone.StopsAtFailure failingLater
        (World.start FileTree.empty ()) ∧
      ∃ schedule summary final,
        lone.RunsInOrder failingLater schedule
            (World.start FileTree.empty ()) summary final ∧
          summary.reports.map RunReport.status =
            [.analysisFailed, .simulatorFailed, .skipped] := by
  refine
    ⟨rfl, rfl, stopsAtFailure rfl rfl failingLater _, ?_⟩
  have hStatuses :
      (lone.run failingLater
        (World.start FileTree.empty ())).1.toOption.map
          (fun summary =>
            summary.reports.map RunReport.status) =
        some [.analysisFailed, .simulatorFailed, .skipped] := by
    decide +kernel
  rcases hRun :
      lone.run failingLater (World.start FileTree.empty ())
    with ⟨e | summary, final⟩
  · rw [hRun] at hStatuses
    cases hStatuses
  rcases exists_schedule_inOrder
      (show 0 < lone.concurrency from Nat.one_pos)
      (World.start FileTree.empty ()) with
    ⟨schedule, hInOrder, hFollow⟩
  rw [hRun] at hFollow hStatuses
  exact
    ⟨schedule, summary, final, ⟨hInOrder, hFollow⟩,
      Option.some.inj hStatuses⟩

end Sweep

end LatencySweep
