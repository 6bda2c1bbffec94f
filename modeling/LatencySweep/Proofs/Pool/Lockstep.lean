import LatencySweep.Proofs.Pool.Alone

/-
  Two workers side by side, one of which stops at a failure.

  A worker whose sweep is to be aborted does the same as one
  whose sweep ignores failures, up to the tuple whose run
  goes wrong before its analyses. Behind this point the one
  does nothing any more, while the other still analyzes the
  tuple and goes on to the next one. So both are followed
  side by side, and what the other does is cut there.

  Main declarations:
    * `Sweep.ignoring`
    * `effectsOf`
    * `Advance.lockstep`
    * `CutsShort`
    * `Plays.cutsShort`
-/

namespace LatencySweep

variable {σ : Type}
variable {sweep : Sweep} {runner : Runner σ}

------------------------------------------------------------
-- Effects
------------------------------------------------------------

/- The same sweep, but failures are ignored. -/
def Sweep.ignoring (sweep : Sweep) : Sweep :=
  { sweep with onFailure := .ignore }

/- A program was called, or a directory was made. -/
def Event.isEffect : Event → Bool
  | created _ => true
  | called _ => true
  | logged _ _ => false
  | printed _ => false

/- The calls and the new directories so far. -/
def World.effects (w : World σ) : List Event :=
  w.events.filter Event.isEffect

/- Those that some deeds have added. -/
def effectsOf (deeds : List (Deed σ)) : List Event :=
  (deeds.flatMap Deed.events).filter Event.isEffect

theorem effectsOf_cons
    (deed : Deed σ)
    (deeds : List (Deed σ)) :
    effectsOf (deed :: deeds) =
      deed.events.filter Event.isEffect ++
        effectsOf deeds := by
  rw [effectsOf, List.flatMap_cons, List.filter_append]
  rfl

/- A deed that leaves the world as it is has none. -/
theorem effectsOf_cons_same
    (worker : Worker)
    (w : World σ)
    (deeds : List (Deed σ)) :
    effectsOf
        ({ worker, before := w, after := w } :: deeds) =
      effectsOf deeds := by
  simp [effectsOf_cons, Deed.events]

/- So it does not matter whether it is kept. -/
theorem effectsOf_filter_cons_same
    (keeps : Deed σ → Bool)
    (worker : Worker)
    (w : World σ)
    (deeds : List (Deed σ)) :
    effectsOf
        (({ worker, before := w, after := w } ::
          deeds).filter keeps) =
      effectsOf (deeds.filter keeps) := by
  rw [List.filter_cons]
  split
  · exact effectsOf_cons_same worker w _
  · rfl

------------------------------------------------------------
-- Deeds Up to a Tuple
------------------------------------------------------------

/- The worker analyzes what was simulated. -/
def Worker.isAnalyzing : Worker → Bool
  | analyzing _ _ _ _ => true
  | _ => false

namespace Deed

/- The deed is done on a tuple before the one with the
   number. -/
def isBefore (number : Nat) (deed : Deed σ) : Bool :=
  deed.worker.tuple?.any (·.index < number)

/- The deed is done on the tuple with the number, and it is
   no analysis. -/
def isDispatch (number : Nat) (deed : Deed σ) : Bool :=
  deed.worker.tuple?.any (·.index = number) &&
    !deed.worker.isAnalyzing

end Deed

/- Tuples in the order of their numbers. -/
def AreOrdered (tuples : List Tuple) : Prop :=
  tuples.Pairwise fun a b => a.index < b.index

namespace Plays

variable {worker : Worker} {waiting : List Tuple}
variable {flag : Bool} {w : World σ}
variable {deeds : List (Deed σ)} {reports : List RunReport}

/- Nothing is done on tuples before the one at hand. -/
theorem filter_isBefore
    {tuple : Tuple}
    (hHeld : worker.tuple? = some tuple)
    (hLess : ∀ other ∈ waiting, tuple.index < other.index)
    (hPlays :
      Plays sweep runner worker waiting flag w deeds
        reports) :
    deeds.filter (Deed.isBefore tuple.index) = [] := by
  rw [List.filter_eq_nil_iff]
  intro deed hDeed
  rcases hPlays.exists_tuple deed hDeed with
    ⟨other, hMem, hOther⟩
  have hLe : tuple.index ≤ other.index := by
    rw [hHeld] at hMem
    rcases List.mem_cons.mp hMem with rfl | hWaits
    · exact Nat.le_refl _
    · exact Nat.le_of_lt (hLess other hWaits)
  simp [Deed.isBefore, hOther, hLe]

end Plays

------------------------------------------------------------
-- Fit and Doomed Workers
------------------------------------------------------------

namespace RunReport

/- The run succeeded, or only its analyses went wrong. -/
def IsPassed (report : RunReport) : Prop :=
  report.status = .succeeded ∨ report.status = .analysisFailed

/- The run went wrong before its analyses. -/
def IsBroken (report : RunReport) : Prop :=
  report.status = .dispatchFailed ∨
    report.status = .simulatorFailed

theorem isBroken_iff {report : RunReport} :
    report.IsBroken ↔ report.status.isFatal = true := by
  unfold IsBroken
  cases report.status <;> simp [RunStatus.isFatal]

theorem IsPassed.not_isBroken
    {report : RunReport}
    (hPassed : report.IsPassed) :
    ¬ report.IsBroken := by
  unfold IsBroken
  rcases hPassed with hStatus | hStatus <;> simp [hStatus]

end RunReport

namespace Worker

/- The tuple of which the simulator has not run yet. -/
def undecided? : Worker → Option Tuple
  | checking tuple => some tuple
  | preparing tuple => some tuple
  | simulating tuple _ => some tuple
  | _ => none

/- Nothing has gone wrong with the tuple so far, apart from
   its analyses. -/
def IsFit : Worker → Prop
  | analyzing _ outcome _ _ => outcome.succeeded = true
  | judging report => report.IsPassed
  | sending report => report.IsPassed
  | _ => True

/- The run of the tuple has gone wrong, and it will not be
   analyzed. -/
def IsDoomed (tuple : Tuple) : Worker → Prop
  | analyzing own outcome _ steps =>
      own = tuple ∧ outcome.succeeded = false ∧ steps = []
  | judging report =>
      report.tuple = tuple ∧ report.IsBroken
  | _ => False

/- The worker leaves alone whatever it still takes. -/
def IsSpared : Worker → Prop
  | idle => True
  | checking _ => True
  | judging report => report.status = .skipped
  | sending report => report.status = .skipped
  | _ => False

end Worker

/- A worker whose tuple is undecided has not decided it
   before. -/
theorem Advance.undecided?_of_undecided?
    {worker next : Worker}
    {flag flag' : Bool}
    {w w' : World σ}
    {tuple : Tuple}
    (hAdvance :
      Advance sweep runner (.held worker) flag w
        (.held next) flag' w')
    (hNext : next.undecided? = some tuple) :
    worker.undecided? = some tuple := by
  cases hAdvance with
  | proceed | prepare => exact hNext
  | skip | refuse | simulate | misfire | analyze | conclude
  | alarm | judge => cases hNext

/- Once its tuple is decided, a worker only analyzes it, if
   no failure calls for an abort. -/
theorem Advance.world_eq_of_decided
    {worker next : Worker}
    {flag flag' : Bool}
    {w w' : World σ}
    (hCalm : ∀ report, sweep.isAborting report = false)
    (hAdvance :
      Advance sweep runner (.held worker) flag w
        (.held next) flag' w')
    (hDecided : worker.undecided? = none)
    (hOther : worker.isAnalyzing = false) :
    w' = w := by
  cases hAdvance with
  | skip | proceed | prepare | refuse | simulate | misfire =>
      cases hDecided
  | analyze | conclude => cases hOther
  | alarm hAborting => cases hAborting.symm.trans (hCalm _)
  | judge => rfl

/- The report on a tuple that was analyzed. -/
theorem Sweep.isPassed_report
    {tuple : Tuple}
    {outcome : Outcome}
    (analyses : List AnalysisResult)
    (hSucceeded : outcome.succeeded = true) :
    (sweep.report tuple (.ok outcome) analyses).IsPassed := by
  unfold RunReport.IsPassed RunReport.status report
  simp only [hSucceeded, Bool.not_true, Bool.false_eq_true,
    if_false]
  split <;> simp

/- The report on a tuple whose simulator failed. -/
theorem Sweep.isBroken_report
    {tuple : Tuple}
    {outcome : Outcome}
    (analyses : List AnalysisResult)
    (hFailed : outcome.succeeded = false) :
    (sweep.report tuple (.ok outcome) analyses).IsBroken := by
  right
  rw [RunReport.status_eq_simulatorFailed_iff]
  exact ⟨outcome, rfl, hFailed⟩

------------------------------------------------------------
-- Side by Side
------------------------------------------------------------

/-
  As long as nothing has gone wrong, both workers come to
  the same. When the run of a tuple goes wrong, one of them
  is doomed, and all that is left for the other to do with
  the tuple is to analyze it.
-/
theorem Advance.lockstep
    {worker next other : Worker}
    {flag flag' : Bool}
    {w w' w'' : World σ}
    (hPolicy : sweep.onFailure = .abort)
    (hFit : worker.IsFit)
    (hAdvance :
      Advance sweep runner (.held worker) false w
        (.held next) flag w')
    (hOther :
      Advance sweep.ignoring runner (.held worker) false w
        (.held other) flag' w'') :
    w'' = w' ∧ flag = false ∧ flag' = false ∧
      (other = next ∧ next.IsFit ∨
        ∃ tuple,
          worker.undecided? = some tuple ∧
            next.IsDoomed tuple ∧
            other.undecided? = none) := by
  cases hAdvance with
  | proceed =>
      cases hOther
      exact ⟨rfl, rfl, rfl, Or.inl ⟨rfl, trivial⟩⟩
  | prepare hPrepare =>
      cases hOther with
      | prepare hSame =>
          cases hPrepare.symm.trans hSame
          exact ⟨rfl, rfl, rfl, Or.inl ⟨rfl, trivial⟩⟩
      | refuse hSame => cases hPrepare.symm.trans hSame
  | @refuse tuple _ _ _ _ hPrepare =>
      cases hOther with
      | prepare hSame => cases hPrepare.symm.trans hSame
      | refuse hSame =>
          cases hPrepare.symm.trans hSame
          exact
            ⟨rfl, rfl, rfl,
              Or.inr
                ⟨tuple, rfl, ⟨rfl, Or.inl rfl⟩, rfl⟩⟩
  | @simulate tuple _ outcome _ _ _ hSimulate =>
      cases hOther with
      | simulate hSame =>
          cases hSimulate.symm.trans hSame
          refine ⟨rfl, rfl, rfl, ?_⟩
          cases hSucceeded : outcome.succeeded with
          | true =>
              left
              refine ⟨?_, hSucceeded⟩
              simp [Sweep.stepsAfter, hSucceeded,
                Sweep.ignoring]
          | false =>
              right
              refine ⟨tuple, rfl, ⟨rfl, hSucceeded, ?_⟩, rfl⟩
              simp [Sweep.stepsAfter, hSucceeded, hPolicy]
      | misfire hSame => cases hSimulate.symm.trans hSame
  | @misfire tuple _ _ _ _ _ hSimulate =>
      cases hOther with
      | simulate hSame => cases hSimulate.symm.trans hSame
      | misfire hSame =>
          cases hSimulate.symm.trans hSame
          exact
            ⟨rfl, rfl, rfl,
              Or.inr
                ⟨tuple, rfl, ⟨rfl, Or.inl rfl⟩, rfl⟩⟩
  | analyze hRun =>
      cases hOther with
      | analyze hSame =>
          cases hRun.symm.trans hSame
          exact ⟨rfl, rfl, rfl, Or.inl ⟨rfl, hFit⟩⟩
  | conclude =>
      cases hOther
      exact
        ⟨rfl, rfl, rfl,
          Or.inl ⟨rfl, Sweep.isPassed_report _ hFit⟩⟩
  | alarm hAborting =>
      have hFatal := (Sweep.isAborting_iff.mp hAborting).2
      exact
        absurd (RunReport.isBroken_iff.mpr hFatal)
          (RunReport.IsPassed.not_isBroken hFit)
  | judge =>
      cases hOther with
      | alarm hAborting =>
          have hIgnored := (Sweep.isAborting_iff.mp hAborting).1
          cases hIgnored
      | judge => exact ⟨rfl, rfl, rfl, Or.inl ⟨rfl, hFit⟩⟩

------------------------------------------------------------
-- Behind the Failure
------------------------------------------------------------

namespace Plays

variable {worker : Worker} {waiting : List Tuple}
variable {flag : Bool} {w : World σ}
variable {deeds : List (Deed σ)} {reports : List RunReport}

/- Once the flag is up, all tuples are skipped. -/
theorem of_raised
    (hPlays :
      Plays sweep runner worker waiting flag w deeds reports)
    (hRaised : flag = true)
    (hSpared : worker.IsSpared) :
    effectsOf deeds = [] ∧
      ∀ report ∈ reports, report.status = .skipped := by
  induction hPlays with
  | done => exact ⟨rfl, nofun⟩
  | take _ ih => exact ih hRaised trivial
  | advance hAdvance _ ih =>
      cases hAdvance with
      | skip =>
          rw [effectsOf_cons_same]
          exact ih rfl rfl
      | judge =>
          rw [effectsOf_cons_same]
          exact ih hRaised hSpared
      | proceed | alarm => cases hRaised
      | prepare | refuse | simulate | misfire | analyze
      | conclude => cases hSpared
  | send _ ih =>
      rcases ih hRaised trivial with ⟨hEffects, hSkipped⟩
      rw [effectsOf_cons_same]
      exact
        ⟨hEffects, List.forall_mem_cons.mpr ⟨hSpared, hSkipped⟩⟩

/- A report that calls for an abort is the last one on a
   tuple that was run. -/
theorem of_aborting
    {report : RunReport}
    (hAborting : sweep.isAborting report = true)
    (hPlays :
      Plays sweep runner (.judging report) waiting false w
        deeds reports) :
    effectsOf deeds = [] ∧
      ∃ late,
        reports = report :: late ∧
          ∀ other ∈ late, other.status = .skipped := by
  cases hPlays with
  | advance hAdvance hRest =>
      cases hAdvance with
      | judge hCalm => cases hCalm hAborting
      | alarm =>
          cases hRest with
          | advance hAdvance => cases hAdvance
          | send hRest =>
              rcases hRest.of_raised rfl trivial with
                ⟨hEffects, hSkipped⟩
              rw [effectsOf_cons, effectsOf_cons_same,
                hEffects]
              refine ⟨?_, _, rfl, hSkipped⟩
              simp [Deed.events, Sweep.logAbort, World.log,
                World.record, Event.isEffect]

/- A worker that is doomed does nothing any more. -/
theorem of_doomed
    {tuple : Tuple}
    (hPolicy : sweep.onFailure = .abort)
    (hDoomed : worker.IsDoomed tuple)
    (hPlays :
      Plays sweep runner worker waiting false w deeds
        reports) :
    effectsOf deeds = [] ∧
      ∃ report late,
        reports = report :: late ∧ report.tuple = tuple ∧
          report.IsBroken ∧
          ∀ other ∈ late, other.status = .skipped := by
  have hJudged
      {report : RunReport}
      {deeds : List (Deed σ)}
      (hTuple : report.tuple = tuple)
      (hBroken : report.IsBroken)
      (hPlays :
        Plays sweep runner (.judging report) waiting false w
          deeds reports) :
      effectsOf deeds = [] ∧
        ∃ report late,
          reports = report :: late ∧ report.tuple = tuple ∧
            report.IsBroken ∧
            ∀ other ∈ late, other.status = .skipped := by
    have hAborting : sweep.isAborting report = true :=
      Sweep.isAborting_iff.mpr
        ⟨hPolicy, RunReport.isBroken_iff.mp hBroken⟩
    rcases of_aborting hAborting hPlays with
      ⟨hEffects, late, hReports, hSkipped⟩
    exact
      ⟨hEffects, report, late, hReports, hTuple, hBroken,
        hSkipped⟩
  cases worker with
  | idle | checking | preparing | simulating | sending =>
      cases hDoomed
  | judging report => exact hJudged hDoomed.1 hDoomed.2 hPlays
  | analyzing own outcome finished steps =>
      rcases hDoomed with ⟨rfl, hFailed, rfl⟩
      cases hPlays with
      | advance hAdvance hRest =>
          cases hAdvance
          rw [effectsOf_cons_same]
          exact
            hJudged rfl (Sweep.isBroken_report _ hFailed)
              hRest

/- With a tuple that is decided, nothing is left to do but to
   analyze it, if no failure calls for an abort. -/
theorem of_decided
    {number : Nat}
    (hCalm : ∀ report, sweep.isAborting report = false)
    (hPlays :
      Plays sweep runner worker waiting flag w deeds reports)
    (hOwn :
      ∀ tuple,
        worker.tuple? = some tuple →
          worker.undecided? = none ∨ number < tuple.index)
    (hWaiting : ∀ tuple ∈ waiting, number < tuple.index) :
    effectsOf (deeds.filter (Deed.isDispatch number)) =
      [] := by
  induction hPlays with
  | done => rfl
  | @take tuple waiting _ _ _ _ _ ih =>
      rw [List.forall_mem_cons] at hWaiting
      refine ih ?_ hWaiting.2
      intro other hOther
      cases hOther
      exact Or.inr hWaiting.1
  | @advance worker next _ _ _ w w' _ _ hAdvance _ ih =>
      have hTuple : next.tuple? = worker.tuple? :=
        hAdvance.tuple?_eq
      have hRest := ih (by
        intro tuple hNext
        rw [hTuple] at hNext
        rcases hOwn tuple hNext with hDecided | hLess
        · left
          cases hUndecided : next.undecided? with
          | none => rfl
          | some other =>
              rw [hAdvance.undecided?_of_undecided?
                hUndecided] at hDecided
              cases hDecided
        · exact Or.inr hLess) hWaiting
      cases hDispatch :
          Deed.isDispatch number
            { worker, before := w, after := w' } with
      | false =>
          rw [List.filter_cons_of_neg (by simp [hDispatch])]
          exact hRest
      | true =>
          simp only [Deed.isDispatch, Bool.and_eq_true,
            Bool.not_eq_true', Option.any_eq_true,
            decide_eq_true_eq] at hDispatch
          rcases hDispatch with ⟨⟨tuple, hOf, rfl⟩, hOther⟩
          rcases hOwn tuple hOf with hDecided | hLess
          · cases hAdvance.world_eq_of_decided hCalm hDecided
              hOther
            rw [effectsOf_filter_cons_same]
            exact hRest
          · exact absurd hLess (Nat.lt_irrefl _)
  | send _ ih =>
      rw [effectsOf_filter_cons_same]
      exact ih nofun hWaiting

end Plays

------------------------------------------------------------
-- The Cut
------------------------------------------------------------

/-
  What a worker does if it stops at a failure, its reports,
  and what it does if it goes on. Unless nothing goes wrong,
  it does what it would do anyway on the tuples before the
  failure, and all but the analyses on the tuple that fails.
-/
inductive CutsShort
    (worker : Worker)
    (waiting : List Tuple) :
    List (Deed σ) → List RunReport → List (Deed σ) →
      Prop where
  | never {deeds reports}
      (hPassed : ∀ report ∈ reports, report.IsPassed) :
      CutsShort worker waiting deeds reports deeds
  | cut {deeds all early report late}
      (hEarly : ∀ other ∈ early, other.IsPassed)
      (hBroken : report.IsBroken)
      (hLate : ∀ other ∈ late, other.status = .skipped)
      (hTuple :
        report.tuple ∈ worker.undecided?.toList ++ waiting)
      (hEffects :
        effectsOf deeds =
          effectsOf
              (all.filter
                (Deed.isBefore report.tuple.index)) ++
            effectsOf
              (all.filter
                (Deed.isDispatch report.tuple.index))) :
      CutsShort worker waiting deeds (early ++ report :: late)
        all

/- What is done on an undecided tuple dispatches it. -/
theorem Deed.isDispatch_of_undecided
    {worker : Worker}
    {tuple : Tuple}
    (hUndecided : worker.undecided? = some tuple)
    (w w' : World σ) :
    let deed : Deed σ := { worker, before := w, after := w' }
    ¬ deed.isBefore tuple.index = true ∧
      deed.isDispatch tuple.index = true := by
  cases worker with
  | checking | preparing | simulating =>
      cases hUndecided
      simp [isBefore, isDispatch, Worker.tuple?,
        Worker.isAnalyzing]
  | idle | analyzing | judging | sending => cases hUndecided

/- A tuple that is undecided is held. -/
theorem Worker.tuple?_of_undecided?
    {worker : Worker}
    {tuple : Tuple}
    (hUndecided : worker.undecided? = some tuple) :
    worker.tuple? = some tuple := by
  cases worker with
  | checking | preparing | simulating => exact hUndecided
  | idle | analyzing | judging | sending => cases hUndecided

namespace CutsShort

variable {worker next : Worker} {waiting : List Tuple}
variable {deeds all : List (Deed σ)}
variable {reports : List RunReport}

/- An idle worker is to take the first tuple that waits. -/
theorem take
    {tuple : Tuple}
    (hCut :
      CutsShort (.checking tuple) waiting deeds reports all) :
    CutsShort .idle (tuple :: waiting) deeds reports all := by
  cases hCut with
  | never hPassed => exact .never hPassed
  | cut hEarly hBroken hLate hTuple hEffects =>
      exact .cut hEarly hBroken hLate hTuple hEffects

/- A worker whose run has passed reports so. -/
theorem send
    {report : RunReport}
    (w : World σ)
    (hPassed : report.IsPassed)
    (hCut : CutsShort .idle waiting deeds reports all) :
    let deed : Deed σ :=
      { worker := .sending report, before := w, after := w }
    CutsShort (.sending report) waiting (deed :: deeds)
      (report :: reports) (deed :: all) := by
  cases hCut with
  | never hAll =>
      exact .never (List.forall_mem_cons.mpr ⟨hPassed, hAll⟩)
  | @cut _ early other late hEarly hBroken hLate hTuple
      hEffects =>
      rw [← List.cons_append]
      refine
        .cut (List.forall_mem_cons.mpr ⟨hPassed, hEarly⟩)
          hBroken hLate hTuple ?_
      rw [effectsOf_cons_same, effectsOf_filter_cons_same,
        effectsOf_filter_cons_same]
      exact hEffects

/- What both workers do before the failure is done on a tuple
   before it, or it dispatches the tuple that fails. -/
theorem advance
    {flag flag' flag'' : Bool}
    {w w' w'' : World σ}
    {going : Sweep}
    {others : List RunReport}
    (hOrder :
      AreOrdered (worker.tuple?.toList ++ waiting))
    (hAdvance :
      Advance sweep runner (.held worker) flag w
        (.held next) flag' w')
    (hOther :
      Plays going runner next waiting flag'' w'' all others)
    (hCut : CutsShort next waiting deeds reports all) :
    let deed : Deed σ := { worker, before := w, after := w' }
    CutsShort worker waiting (deed :: deeds) reports
      (deed :: all) := by
  have hNext : next.tuple? = worker.tuple? :=
    hAdvance.tuple?_eq
  rcases hAdvance.exists_tuple with ⟨tuple, hOwn⟩
  have hHeld : worker.tuple? = some tuple := hOwn
  rw [hHeld] at hOrder hNext
  have hLess := (List.pairwise_cons.mp hOrder).1
  cases hCut with
  | never hPassed => exact .never hPassed
  | @cut _ early report late hEarly hBroken hLate hTuple
      hEffects =>
      rcases List.mem_append.mp hTuple with
        hUndecided | hWaits
      · -- the tuple that fails is the one at hand
        rw [Option.mem_toList] at hUndecided
        have hBefore :=
          hAdvance.undecided?_of_undecided? hUndecided
        cases hHeld.symm.trans
          (Worker.tuple?_of_undecided? hBefore)
        have hNone := hOther.filter_isBefore hNext hLess
        rcases Deed.isDispatch_of_undecided hBefore w w' with
          ⟨hPast, hDispatch⟩
        refine
          .cut hEarly hBroken hLate
            (List.mem_append_left _
              (Option.mem_toList.mpr hBefore)) ?_
        rw [hNone] at hEffects
        rw [List.filter_cons_of_neg hPast,
          List.filter_cons_of_pos hDispatch, hNone,
          effectsOf_cons, effectsOf_cons, hEffects]
        rfl
      · -- the tuple at hand is before the one that fails
        have hBefore :
            Deed.isBefore report.tuple.index
                { worker, before := w, after := w' } =
              true := by
          simp [Deed.isBefore, hHeld, hLess _ hWaits]
        have hNoDispatch :
            Deed.isDispatch report.tuple.index
                { worker, before := w, after := w' } =
              false := by
          simp [Deed.isDispatch, hHeld,
            Nat.ne_of_lt (hLess _ hWaits)]
        refine
          .cut hEarly hBroken hLate
            (List.mem_append_right _ hWaits) ?_
        rw [List.filter_cons_of_pos hBefore,
          List.filter_cons_of_neg (by simp [hNoDispatch]),
          effectsOf_cons, effectsOf_cons, hEffects,
          List.append_assoc]

/- Where the run goes wrong, both workers have dispatched the
   tuple, and only the other one has more to do. -/
theorem of_doomed
    {other : Worker}
    {flag : Bool}
    {w w' : World σ}
    {tuple : Tuple}
    {others : List RunReport}
    (hPolicy : sweep.onFailure = .abort)
    (hOrder :
      AreOrdered (worker.tuple?.toList ++ waiting))
    (hUndecided : worker.undecided? = some tuple)
    (hDoomed : next.IsDoomed tuple)
    (hPlays :
      Plays sweep runner next waiting false w' deeds reports)
    (hTuple : other.tuple? = worker.tuple?)
    (hDecided : other.undecided? = none)
    (hOther :
      Plays sweep.ignoring runner other waiting flag w' all
        others) :
    let deed : Deed σ := { worker, before := w, after := w' }
    CutsShort worker waiting (deed :: deeds) reports
      (deed :: all) := by
  rw [Worker.tuple?_of_undecided? hUndecided]
    at hOrder hTuple
  have hLess := (List.pairwise_cons.mp hOrder).1
  rcases hPlays.of_doomed hPolicy hDoomed with
    ⟨hNothing, report, late, rfl, rfl, hBroken, hLate⟩
  have hNone := hOther.filter_isBefore hTuple hLess
  have hCalm (report : RunReport) :
      sweep.ignoring.isAborting report = false := rfl
  have hOnlyAnalyses :=
    hOther.of_decided hCalm (fun _ _ => Or.inl hDecided) hLess
  rcases Deed.isDispatch_of_undecided hUndecided w w' with
    ⟨hPast, hDispatch⟩
  have hOwn :
      report.tuple ∈ worker.undecided?.toList ++ waiting :=
    List.mem_append_left _ (Option.mem_toList.mpr hUndecided)
  refine @CutsShort.cut σ worker waiting _ _ [] report late
    nofun hBroken hLate hOwn ?_
  rw [List.filter_cons_of_neg hPast,
    List.filter_cons_of_pos hDispatch, hNone, effectsOf_cons,
    effectsOf_cons, hNothing, hOnlyAnalyses]
  rfl

end CutsShort

/-
  Side by side with a worker that goes on, a worker whose
  sweep is to be aborted is cut short at the first tuple
  whose run goes wrong before its analyses.
-/
theorem Plays.cutsShort
    {worker : Worker}
    {waiting : List Tuple}
    {flag : Bool}
    {w : World σ}
    {deeds all : List (Deed σ)}
    {reports others : List RunReport}
    (hPolicy : sweep.onFailure = .abort)
    (hPlays :
      Plays sweep runner worker waiting flag w deeds reports)
    (hDown : flag = false)
    (hFit : worker.IsFit)
    (hOrder :
      AreOrdered (worker.tuple?.toList ++ waiting))
    (hOther :
      Plays sweep.ignoring runner worker waiting false w all
        others) :
    CutsShort worker waiting deeds reports all := by
  induction hPlays generalizing all others with
  | done =>
      cases hOther with
      | done => exact .never nofun
      | advance hAdvance => cases hAdvance
  | take _ ih =>
      cases hOther with
      | advance hAdvance => cases hAdvance
      | take hRest => exact (ih hDown trivial hOrder hRest).take
  | @send report waiting _ w _ _ _ ih =>
      cases hOther with
      | advance hAdvance => cases hAdvance
      | send hRest =>
          have hLater : AreOrdered waiting :=
            (List.pairwise_cons.mp hOrder).2
          exact (ih hDown trivial hLater hRest).send w hFit
  | @advance worker next waiting _ _ w w' _ _ hAdvance
      hPlayed ih =>
      subst hDown
      cases hOther with
      | done | take | send => cases hAdvance
      | advance hOtherAdvance hRest =>
          have hTuple : next.tuple? = worker.tuple? :=
            hAdvance.tuple?_eq
          rcases hAdvance.lockstep hPolicy hFit hOtherAdvance
            with ⟨rfl, rfl, rfl, ⟨rfl, hNext⟩ |
              ⟨tuple, hUndecided, hDoomed, hDecided⟩⟩
          · rw [← hTuple] at hOrder
            have hCut := ih rfl hNext hOrder hRest
            rw [hTuple] at hOrder
            exact hCut.advance hOrder hAdvance hRest
          · exact
              .of_doomed hPolicy hOrder hUndecided hDoomed
                hPlayed hOtherAdvance.tuple?_eq hDecided hRest

end LatencySweep
