import LatencySweep.Proofs.Isolation.Forecast
import LatencySweep.Proofs.Summary.Status

/-
  What is called for a tuple, and what the report makes of
  the answers.

  Preparing the directory and calling programs one after the
  other is all that a run does, apart from log messages. The
  answers decide which calls these are: how far the run gets
  is said by its course, with one case for each stage that
  may be the first to go wrong.

  Main declarations:
    * `World.callAll`
    * `World.IsUpToLogs`
    * `callAll_of_runAnalyses`
    * `Sweep.Course`
    * `Sweep.FollowsCourse`
    * `Sweep.runTuple_followsCourse`
-/

namespace LatencySweep

variable {σ : Type}

------------------------------------------------------------
-- Calls in a Row
------------------------------------------------------------

/- Call programs one after the other. -/
def World.callAll
    (runner : Runner σ) :
    List Invocation → World σ →
      List (Except OsError Outcome) × World σ
  | [], w => ([], w)
  | call :: calls, w =>
      let (answer, next) := w.call runner call
      let (answers, last) := callAll runner calls next
      (answer :: answers, last)

theorem World.length_callAll
    (runner : Runner σ)
    (calls : List Invocation)
    (w : World σ) :
    (callAll runner calls w).1.length = calls.length := by
  induction calls generalizing w with
  | nil => rfl
  | cons call calls ih => exact congrArg (· + 1) (ih _)

/- The calls are told by the events. -/
theorem World.invocations_callAll
    (runner : Runner σ)
    (calls : List Invocation)
    (w : World σ) :
    (callAll runner calls w).2.invocations =
      w.invocations ++ calls := by
  induction calls generalizing w with
  | nil => exact (List.append_nil _).symm
  | cons call calls ih =>
      have hRest := ih (w.call runner call).2
      rw [World.invocations_call, List.append_assoc]
        at hRest
      exact hRest

------------------------------------------------------------
-- Worlds up to Logs
------------------------------------------------------------

/- The worlds differ in log messages only. -/
structure World.IsUpToLogs (w other : World σ) : Prop where
  tree : other.tree = w.tree
  programs : other.programs = w.programs
  events :
    other.events.filter (·.logLine?.isNone) =
      w.events.filter (·.logLine?.isNone)

namespace World.IsUpToLogs

variable {w middle other : World σ}

theorem refl (w : World σ) : w.IsUpToLogs w :=
  { tree := rfl, programs := rfl, events := rfl }

theorem trans
    (hFirst : w.IsUpToLogs middle)
    (hSecond : middle.IsUpToLogs other) :
    w.IsUpToLogs other where
  tree := hSecond.tree.trans hFirst.tree
  programs := hSecond.programs.trans hFirst.programs
  events := hSecond.events.trans hFirst.events

theorem log
    (w : World σ)
    (level : Level)
    (message : String) :
    w.IsUpToLogs (w.log level message) where
  tree := rfl
  programs := rfl
  events := by
    simp [World.log, World.record, Event.logLine?]

theorem warn?
    (w : World σ)
    (message? : Option String) :
    w.IsUpToLogs (w.warn? message?) := by
  cases message? with
  | none => exact refl w
  | some message => exact log w _ _

theorem logSimulator
    (dir : Path)
    (result : Except DispatchError Outcome)
    (w : World σ) :
    w.IsUpToLogs (Sweep.logSimulator dir result w) := by
  unfold Sweep.logSimulator
  split
  · exact log w _ _
  · split
    · exact log w _ _
    · exact log w _ _

/- A program cannot tell such worlds apart. -/
theorem call_fst
    (hSame : w.IsUpToLogs other)
    (runner : Runner σ)
    (call : Invocation) :
    (other.call runner call).1 = (w.call runner call).1 := by
  unfold World.call
  rw [hSame.tree, hSame.programs]

theorem call
    (hSame : w.IsUpToLogs other)
    (runner : Runner σ)
    (call : Invocation) :
    (w.call runner call).2.IsUpToLogs
      (other.call runner call).2 where
  tree := by
    unfold World.call
    rw [hSame.tree, hSame.programs]
  programs := by
    unfold World.call
    rw [hSame.tree, hSame.programs]
  events := by
    unfold World.call
    rw [hSame.tree, hSame.programs]
    simp only [List.filter_append, hSame.events]

/- So the same calls are told by their events. -/
theorem invocations_eq
    (hSame : w.IsUpToLogs other) :
    other.invocations = w.invocations := by
  have hFilter (events : List Event) :
      (events.filter (·.logLine?.isNone)).filterMap
          Event.invocation? =
        events.filterMap Event.invocation? := by
    rw [List.filterMap_filter]
    apply List.filterMap_congr
    intro event _
    cases event <;> rfl
  unfold World.invocations
  rw [← hFilter, hSame.events, hFilter]

/- A launch is a call that is logged. -/
theorem launch
    (hSame : w.IsUpToLogs other)
    (runner : Runner σ)
    (call : Invocation) :
    (LatencySweep.launch runner call other).1 =
        (w.call runner call).1.mapError
          (.launch call.program) ∧
      (w.call runner call).2.IsUpToLogs
        (LatencySweep.launch runner call other).2 := by
  constructor
  · rw [launch_fst, ← hSame.call_fst runner call]
    rfl
  · rw [launch_snd]
    exact (hSame.trans (log other _ _)).call runner call

end World.IsUpToLogs

------------------------------------------------------------
-- Analyses
------------------------------------------------------------

/- The result of an analysis, given the runner's answer. -/
def AnalysisStep.resultOf
    (step : AnalysisStep)
    (answer : Except OsError Outcome) : AnalysisResult :=
  { name := step.name
    result := answer.mapError (.launch step.program) }

/- Analyses are calls in a row, and each result is that of
   its own call. -/
theorem callAll_of_runAnalyses
    (runner : Runner σ)
    (dir : Path)
    (steps : List AnalysisStep)
    {w other : World σ}
    (hSame : w.IsUpToLogs other) :
    (runAnalyses runner dir steps other).1 =
        List.zipWith AnalysisStep.resultOf steps
          (w.callAll runner
            (steps.map (AnalysisStep.invocation · dir))).1 ∧
      (w.callAll runner
          (steps.map
            (AnalysisStep.invocation · dir))).2.IsUpToLogs
        (runAnalyses runner dir steps other).2 := by
  induction steps generalizing w other with
  | nil => exact ⟨rfl, hSame⟩
  | cons step steps ih =>
      rcases hSame.launch runner (step.invocation dir) with
        ⟨hResult, hLaunched⟩
      have hFirst :
          (step.run runner dir other).1 =
            step.resultOf
              (w.call runner (step.invocation dir)).1 := by
        rw [AnalysisStep.run_fst, hResult]
        rfl
      have hNext :
          (w.call runner (step.invocation dir)).2.IsUpToLogs
            (step.run runner dir other).2 :=
        hLaunched.trans (.warn? _ _)
      rcases ih hNext with ⟨hResults, hLast⟩
      refine ⟨?_, hLast⟩
      exact congrArg₂ List.cons hFirst hResults

------------------------------------------------------------
-- Courses
------------------------------------------------------------

/- A result is good if its answer is. -/
theorem AnalysisStep.succeeded_resultOf_iff
    {step : AnalysisStep}
    {answer : Except OsError Outcome} :
    (step.resultOf answer).succeeded = true ↔
      IsSuccess answer := by
  rw [AnalysisResult.succeeded_iff]
  unfold resultOf IsSuccess
  cases answer with
  | error cause => simp [Except.mapError]
  | ok outcome => simp [Except.mapError]

namespace Sweep

/- The results of all analyses, given the answers. -/
def resultsOf
    (sweep : Sweep)
    (answers : List (Except OsError Outcome)) :
    List AnalysisResult :=
  List.zipWith AnalysisStep.resultOf sweep.analyses answers

/-
  How a tuple is run, given how the preparation of its
  directory ended: the calls that are made, the answers to
  them, and the report. The analyses are run if the
  simulator succeeded or its failure is to be ignored, and
  then all of them are.
-/
inductive Course
    (sweep : Sweep)
    (tuple : Tuple) :
    Except DispatchError Path → List Invocation →
      List (Except OsError Outcome) → RunReport → Prop where
  | unprepared {e} :
      Course sweep tuple (.error e) [] []
        (sweep.report tuple (.error e) [])
  | unlaunched {cause} :
      Course sweep tuple (.ok (sweep.outputDir tuple))
        [sweep.simulatorInvocation tuple
          (sweep.outputDir tuple)]
        [.error cause]
        (sweep.report tuple
          (.error (.launch sweep.simulator.runner cause)) [])
  | abandoned {outcome}
      (hFailed : outcome.exitCode ≠ some 0)
      (hPolicy :
        sweep.onFailure = .skipAnalysis ∨
          sweep.onFailure = .abort) :
      Course sweep tuple (.ok (sweep.outputDir tuple))
        [sweep.simulatorInvocation tuple
          (sweep.outputDir tuple)]
        [.ok outcome]
        (sweep.report tuple (.ok outcome) [])
  | analyzed {outcome answers}
      (hDue :
        outcome.exitCode = some 0 ∨
          sweep.onFailure = .ignore)
      (hAnswers : answers.length = sweep.analyses.length) :
      Course sweep tuple (.ok (sweep.outputDir tuple))
        (sweep.simulatorInvocation tuple
            (sweep.outputDir tuple) ::
          sweep.analyses.map
            (AnalysisStep.invocation ·
              (sweep.outputDir tuple)))
        (.ok outcome :: answers)
        (sweep.report tuple (.ok outcome)
          (sweep.resultsOf answers))

end Sweep

/- The status of a run, told by the first of its stages that
   went wrong. The simulator is the first to be called. -/
inductive IsStatusOf :
    Except DispatchError Path →
      List (Except OsError Outcome) → RunStatus → Prop where
  | unprepared {e answers} :
      IsStatusOf (.error e) answers .dispatchFailed
  | unlaunched {dir cause answers} :
      IsStatusOf (.ok dir) (.error cause :: answers)
        .dispatchFailed
  | simulatorFailed {dir outcome answers}
      (hFailed : outcome.exitCode ≠ some 0) :
      IsStatusOf (.ok dir) (.ok outcome :: answers)
        .simulatorFailed
  | analysisFailed {dir outcome answers}
      (hSucceeded : outcome.exitCode = some 0)
      (hFailed : ∃ answer ∈ answers, ¬ IsSuccess answer) :
      IsStatusOf (.ok dir) (.ok outcome :: answers)
        .analysisFailed
  | succeeded {dir outcome answers}
      (hSucceeded : outcome.exitCode = some 0)
      (hAll : ∀ answer ∈ answers, IsSuccess answer) :
      IsStatusOf (.ok dir) (.ok outcome :: answers)
        .succeeded

/- All results are good if all answers are. -/
theorem forall_zipWith_resultOf_iff
    {steps : List AnalysisStep}
    {answers : List (Except OsError Outcome)}
    (hLength : answers.length = steps.length) :
    (∀ r ∈ List.zipWith AnalysisStep.resultOf steps answers,
        r.succeeded = true) ↔
      ∀ answer ∈ answers, IsSuccess answer := by
  induction steps generalizing answers with
  | nil =>
      rw [List.length_nil, List.length_eq_zero_iff] at hLength
      simp [hLength]
  | cons step steps ih =>
      cases answers with
      | nil => cases hLength
      | cons answer answers =>
          rw [List.zipWith_cons_cons, List.forall_mem_cons,
            List.forall_mem_cons, ih (Nat.succ.inj hLength),
            AnalysisStep.succeeded_resultOf_iff]

namespace Sweep

variable {sweep : Sweep} {runner : Runner σ} {tuple : Tuple}

/- The analyses do not make up for the simulator. -/
theorem status_report_of_failed
    {outcome : Outcome}
    (analyses : List AnalysisResult)
    (hFailed : outcome.exitCode ≠ some 0) :
    (sweep.report tuple (.ok outcome) analyses).status =
      .simulatorFailed := by
  rw [RunReport.status_eq_simulatorFailed_iff]
  refine ⟨outcome, rfl, ?_⟩
  rwa [← Bool.not_eq_true, Outcome.succeeded_iff]

/- The report of a course has the status that the answers
   tell of. -/
theorem Course.isStatusOf
    {prepared : Except DispatchError Path}
    {calls : List Invocation}
    {answers : List (Except OsError Outcome)}
    {report : RunReport}
    (hCourse :
      sweep.Course tuple prepared calls answers report) :
    IsStatusOf prepared answers report.status := by
  cases hCourse with
  | unprepared => exact .unprepared
  | unlaunched => exact .unlaunched
  | @abandoned outcome hFailed hPolicy =>
      rw [status_report_of_failed [] hFailed]
      exact .simulatorFailed hFailed
  | @analyzed outcome answers hDue hAnswers =>
      let report :=
        sweep.report tuple (.ok outcome)
          (sweep.resultsOf answers)
      have hResults :
          (∀ r ∈ report.analyses, r.succeeded = true) ↔
            ∀ answer ∈ answers, IsSuccess answer :=
        forall_zipWith_resultOf_iff hAnswers
      by_cases hExit : outcome.exitCode = some 0
      · have hSucceeded := Outcome.succeeded_iff.mpr hExit
        by_cases hAll : ∀ answer ∈ answers, IsSuccess answer
        · have hStatus : report.status = .succeeded := by
            rw [RunReport.status_eq_succeeded_iff]
            exact
              ⟨outcome, rfl, hSucceeded, hResults.mpr hAll⟩
          rw [hStatus]
          exact .succeeded hExit hAll
        · have hStatus : report.status = .analysisFailed := by
            rw [RunReport.status_eq_analysisFailed_iff]
            refine ⟨outcome, rfl, hSucceeded, ?_⟩
            rw [← hResults] at hAll
            simpa using hAll
          rw [hStatus]
          refine .analysisFailed hExit ?_
          simpa using hAll
      · rw [status_report_of_failed _ hExit]
        exact .simulatorFailed hExit

/- What is done for a tuple is to prepare its directory and
   to make the calls of its course, whose report has the
   right status. -/
structure FollowsCourse
    (sweep : Sweep)
    (runner : Runner σ)
    (tuple : Tuple)
    (w : World σ)
    (calls : List Invocation) : Prop where
  invocations :
    (sweep.runTuple runner tuple w).2.invocations =
      w.invocations ++ calls
  effects :
    ((sweep.prepare tuple w).2.callAll runner
        calls).2.IsUpToLogs
      (sweep.runTuple runner tuple w).2
  course :
    sweep.Course tuple (sweep.prepare tuple w).1 calls
      ((sweep.prepare tuple w).2.callAll runner calls).1
      (sweep.runTuple runner tuple w).1
  status :
    IsStatusOf (sweep.prepare tuple w).1
      ((sweep.prepare tuple w).2.callAll runner calls).1
      (sweep.runTuple runner tuple w).1.status

/- Every analysis follows unless the policy forbids it. -/
theorem stepsAfter_cases
    (sweep : Sweep)
    (outcome : Outcome) :
    (sweep.stepsAfter outcome = sweep.analyses ∧
        (outcome.exitCode = some 0 ∨
          sweep.onFailure = .ignore)) ∨
      (sweep.stepsAfter outcome = [] ∧
        outcome.exitCode ≠ some 0 ∧
        (sweep.onFailure = .skipAnalysis ∨
          sweep.onFailure = .abort)) := by
  have hSucceeded := @Outcome.succeeded_iff outcome
  unfold stepsAfter
  by_cases hExit : outcome.exitCode = some 0
  · left
    simp [hSucceeded, hExit]
  · cases hPolicy : sweep.onFailure with
    | ignore => simp
    | skipAnalysis => simp [hSucceeded, hExit]
    | abort => simp [hSucceeded, hExit]

/- After the simulator ran, a course makes the calls of the
   analyses that are to follow. -/
theorem Course.of_stepsAfter
    {outcome : Outcome}
    {answers : List (Except OsError Outcome)}
    (hAnswers :
      answers.length =
        ((sweep.stepsAfter outcome).map
          (AnalysisStep.invocation ·
            (sweep.outputDir tuple))).length) :
    sweep.Course tuple (.ok (sweep.outputDir tuple))
      (sweep.simulatorInvocation tuple
          (sweep.outputDir tuple) ::
        (sweep.stepsAfter outcome).map
          (AnalysisStep.invocation ·
            (sweep.outputDir tuple)))
      (.ok outcome :: answers)
      (sweep.report tuple (.ok outcome)
        (List.zipWith AnalysisStep.resultOf
          (sweep.stepsAfter outcome) answers)) := by
  rw [List.length_map] at hAnswers
  rcases sweep.stepsAfter_cases outcome with
    ⟨hSteps, hDue⟩ | ⟨hSteps, hFailed, hPolicy⟩
  · rw [hSteps] at hAnswers ⊢
    exact .analyzed hDue hAnswers
  · rw [hSteps, List.length_nil,
      List.length_eq_zero_iff] at hAnswers
    rw [hSteps, hAnswers]
    exact .abandoned hFailed hPolicy

/- A tuple whose simulator did not run is not analyzed. -/
theorem runTuple_of_dispatch_error
    {e : DispatchError}
    {w next : World σ}
    (hDispatch :
      sweep.dispatch runner tuple w = (.error e, next)) :
    sweep.runTuple runner tuple w =
      (sweep.report tuple (.error e) [],
        logSimulator (sweep.outputDir tuple) (.error e)
          next) := by
  unfold runTuple
  rw [hDispatch]

/- A tuple whose simulator ran gets the analyses that are to
   follow. -/
theorem runTuple_of_dispatch_ok
    {outcome : Outcome}
    {w next : World σ}
    (hDispatch :
      sweep.dispatch runner tuple w = (.ok outcome, next)) :
    let ran :=
      runAnalyses runner (sweep.outputDir tuple)
        (sweep.stepsAfter outcome)
        (logSimulator (sweep.outputDir tuple) (.ok outcome)
          next)
    sweep.runTuple runner tuple w =
      (sweep.report tuple (.ok outcome) ran.1, ran.2) := by
  unfold runTuple
  rw [hDispatch]

/- A dispatch is the launch of the simulator in the directory
   that was prepared. -/
theorem dispatch_of_prepare_ok
    (runner : Runner σ)
    {dir : Path}
    {w next : World σ}
    (hPrepare : sweep.prepare tuple w = (.ok dir, next)) :
    sweep.dispatch runner tuple w =
      launch runner
        (sweep.simulatorInvocation tuple
          (sweep.outputDir tuple))
        next := by
  cases eq_outputDir_of_prospect
    (prospect_of_prepare hPrepare)
  unfold dispatch
  rw [hPrepare]
  rfl

/- A run makes the calls of a course, and no others. -/
theorem exists_course
    (sweep : Sweep)
    (runner : Runner σ)
    (tuple : Tuple)
    (w : World σ) :
    ∃ calls,
      ((sweep.prepare tuple w).2.callAll runner
          calls).2.IsUpToLogs
        (sweep.runTuple runner tuple w).2 ∧
      sweep.Course tuple (sweep.prepare tuple w).1 calls
        ((sweep.prepare tuple w).2.callAll runner calls).1
        (sweep.runTuple runner tuple w).1 := by
  rcases hPrepare : sweep.prepare tuple w with ⟨e | dir, next⟩
  · -- without a directory nothing is called
    have hDispatch :
        sweep.dispatch runner tuple w = (.error e, next) := by
      unfold dispatch
      rw [hPrepare]
    rw [runTuple_of_dispatch_error hDispatch]
    refine ⟨[], ?_, .unprepared⟩
    exact .logSimulator (sweep.outputDir tuple) (.error e) next
  · have hDispatch :=
      dispatch_of_prepare_ok runner hPrepare
    cases eq_outputDir_of_prospect
      (prospect_of_prepare hPrepare)
    let dir := sweep.outputDir tuple
    let call := sweep.simulatorInvocation tuple dir
    rcases (World.IsUpToLogs.refl next).launch runner call
      with ⟨hResult, hLaunched⟩
    rcases hCall : next.call runner call with
      ⟨cause | outcome, called⟩
    · -- the launch failed, so nothing is left to analyze
      rw [hCall] at hResult hLaunched
      have hAlone :
          next.callAll runner [call] =
            ([.error cause], called) := by
        simp only [World.callAll, hCall]
      rw [runTuple_of_dispatch_error
        (hDispatch.trans (Prod.ext hResult rfl))]
      refine ⟨[call], ?_, ?_⟩
      · rw [hAlone]
        exact
          hLaunched.trans
            (.logSimulator dir
              (.error (.launch call.program cause)) _)
      · rw [hAlone]
        exact .unlaunched
    · -- the simulator ran, and the policy decides the rest
      rw [hCall] at hResult hLaunched
      have hReady :
          called.IsUpToLogs
            (logSimulator dir (.ok outcome)
              (launch runner call next).2) :=
        hLaunched.trans (.logSimulator dir _ _)
      rw [runTuple_of_dispatch_ok
        (hDispatch.trans (Prod.ext hResult rfl))]
      rcases callAll_of_runAnalyses runner dir
          (sweep.stepsAfter outcome) hReady with
        ⟨hResults, hLast⟩
      let calls :=
        (sweep.stepsAfter outcome).map
          (AnalysisStep.invocation · dir)
      have hAll :
          next.callAll runner (call :: calls) =
            (.ok outcome :: (called.callAll runner calls).1,
              (called.callAll runner calls).2) := by
        simp only [World.callAll, hCall]
      refine ⟨call :: calls, ?_, ?_⟩
      · rw [hAll]
        exact hLast
      · rw [hAll, hResults]
        exact .of_stepsAfter (World.length_callAll ..)

/- A tuple is run exactly as its policy prescribes, whatever
   the runner answers. -/
theorem runTuple_followsCourse
    (sweep : Sweep)
    (runner : Runner σ)
    (tuple : Tuple)
    (w : World σ) :
    ∃ calls, sweep.FollowsCourse runner tuple w calls := by
  rcases exists_course sweep runner tuple w with
    ⟨calls, hEffects, hCourse⟩
  have hCalls :
      (sweep.runTuple runner tuple w).2.invocations =
        w.invocations ++ calls := by
    rw [hEffects.invocations_eq, World.invocations_callAll,
      invocations_prepare]
  exact
    ⟨calls,
      { invocations := hCalls
        effects := hEffects
        course := hCourse
        status := hCourse.isStatusOf }⟩

end Sweep

end LatencySweep
