import LatencySweep.Sweep.Run

/-
  What the steps of a run leave behind in the world.

  Each step of a run has one equation for the tree, one for
  the invocations and one for the events that it adds. Log
  messages change nothing but the events.

  Main declarations:
    * `World.Adds`
    * `launch_fst`
    * `invocations_launch`
    * `Runner.Says`
    * `Event.IsAbortNotice`
-/

namespace LatencySweep

variable {σ : Type}

------------------------------------------------------------
-- Logs
------------------------------------------------------------

namespace World

@[simp] theorem tree_log
    (w : World σ)
    (level : Level)
    (message : String) :
    (w.log level message).tree = w.tree := rfl

@[simp] theorem programs_log
    (w : World σ)
    (level : Level)
    (message : String) :
    (w.log level message).programs = w.programs := rfl

@[simp] theorem invocations_log
    (w : World σ)
    (level : Level)
    (message : String) :
    (w.log level message).invocations = w.invocations := by
  simp [invocations, log, record, Event.invocation?]

@[simp] theorem tree_warn?
    (w : World σ)
    (message? : Option String) :
    (w.warn? message?).tree = w.tree := by
  cases message? <;> rfl

@[simp] theorem invocations_warn?
    (w : World σ)
    (message? : Option String) :
    (w.warn? message?).invocations = w.invocations := by
  cases message? with
  | none => rfl
  | some message => exact w.invocations_log _ _

end World

@[simp] theorem Sweep.tree_logSimulator
    (dir : Path)
    (result : Except DispatchError Outcome)
    (w : World σ) :
    (logSimulator dir result w).tree = w.tree := by
  unfold logSimulator
  split
  · rfl
  · split <;> rfl

@[simp] theorem Sweep.invocations_logSimulator
    (dir : Path)
    (result : Except DispatchError Outcome)
    (w : World σ) :
    (logSimulator dir result w).invocations =
      w.invocations := by
  unfold logSimulator
  split
  · exact w.invocations_log _ _
  · split <;> exact w.invocations_log _ _

------------------------------------------------------------
-- Calls
------------------------------------------------------------

/- What a runner makes of an invocation in a world. -/
def World.answer
    (w : World σ)
    (runner : Runner σ)
    (invocation : Invocation) : Answer σ :=
  runner.run invocation w.tree w.programs

/- A call is told from others by its invocation. -/
theorem World.invocations_call
    (w : World σ)
    (runner : Runner σ)
    (invocation : Invocation) :
    (w.call runner invocation).2.invocations =
      w.invocations ++ [invocation] := by
  have hLogged (messages : List (Level × String)) :
      (messages.map fun m =>
          Event.logged m.1 m.2).filterMap
        Event.invocation? = [] := by
    induction messages with
    | nil => rfl
    | cons message messages ih => exact ih
  simp [call, invocations, hLogged, Event.invocation?]

/- The result of a launch is that of the call. -/
theorem launch_fst
    (runner : Runner σ)
    (invocation : Invocation)
    (w : World σ) :
    (launch runner invocation w).1 =
      (w.answer runner invocation).result.mapError
        (.launch invocation.program) := by
  unfold launch World.call World.answer
  simp only [World.tree_log, World.programs_log]
  cases (runner.run invocation w.tree w.programs).result <;>
    rfl

/- The world after a launch is that after the call. -/
theorem launch_snd
    (runner : Runner σ)
    (invocation : Invocation)
    (w : World σ) :
    (launch runner invocation w).2 =
      ((w.log .debug invocation.toText).call runner
        invocation).2 := by
  unfold launch
  split <;> simp_all

@[simp] theorem tree_launch
    (runner : Runner σ)
    (invocation : Invocation)
    (w : World σ) :
    (launch runner invocation w).2.tree =
      (w.answer runner invocation).tree := by
  rw [launch_snd]
  rfl

@[simp] theorem invocations_launch
    (runner : Runner σ)
    (invocation : Invocation)
    (w : World σ) :
    (launch runner invocation w).2.invocations =
      w.invocations ++ [invocation] := by
  rw [launch_snd, World.invocations_call,
    World.invocations_log]

/- A simulation is a launch. -/
theorem Sweep.tree_of_simulate
    {sweep : Sweep}
    {runner : Runner σ}
    {tuple : Tuple}
    {dir : Path}
    {w next : World σ}
    {result : Except DispatchError Outcome}
    (hSimulate :
      sweep.simulate runner tuple dir w = (result, next)) :
    next.tree =
      (w.answer runner
        (sweep.simulatorInvocation tuple dir)).tree := by
  rw [← tree_launch, ← Sweep.simulate, hSimulate]

theorem Sweep.invocations_of_simulate
    {sweep : Sweep}
    {runner : Runner σ}
    {tuple : Tuple}
    {dir : Path}
    {w next : World σ}
    {result : Except DispatchError Outcome}
    (hSimulate :
      sweep.simulate runner tuple dir w = (result, next)) :
    next.invocations =
      w.invocations ++
        [sweep.simulatorInvocation tuple dir] := by
  rw [← invocations_launch, ← Sweep.simulate, hSimulate]

/- An analysis is a launch whose end is logged. -/
@[simp] theorem AnalysisStep.run_fst
    (step : AnalysisStep)
    (runner : Runner σ)
    (dir : Path)
    (w : World σ) :
    (step.run runner dir w).1 =
      { name := step.name
        result :=
          (launch runner (step.invocation dir) w).1 } := rfl

@[simp] theorem AnalysisStep.tree_run
    (step : AnalysisStep)
    (runner : Runner σ)
    (dir : Path)
    (w : World σ) :
    (step.run runner dir w).2.tree =
      (w.answer runner (step.invocation dir)).tree := by
  unfold run
  rw [World.tree_warn?, tree_launch]

@[simp] theorem AnalysisStep.invocations_run
    (step : AnalysisStep)
    (runner : Runner σ)
    (dir : Path)
    (w : World σ) :
    (step.run runner dir w).2.invocations =
      w.invocations ++ [step.invocation dir] := by
  unfold run
  rw [World.invocations_warn?, invocations_launch]

/- Preparing a directory calls no program. -/
@[simp] theorem Sweep.invocations_prepare
    (sweep : Sweep)
    (tuple : Tuple)
    (w : World σ) :
    (sweep.prepare tuple w).2.invocations =
      w.invocations := by
  unfold prepare
  dsimp only
  split
  · simp [World.invocations, World.log, World.record,
      Event.invocation?]
  · split
    · simp
    · rfl

------------------------------------------------------------
-- Added Events
------------------------------------------------------------

/- Events were added, and something holds of each of them. -/
def World.Adds
    (w next : World σ)
    (Holds : Event → Prop) : Prop :=
  ∃ added,
    next.events = w.events ++ added ∧
      ∀ event ∈ added, Holds event

namespace World.Adds

variable {Holds : Event → Prop} {w middle next : World σ}

theorem refl (w : World σ) (Holds : Event → Prop) :
    w.Adds w Holds :=
  ⟨[], by simp, by simp⟩

theorem trans
    (hFirst : w.Adds middle Holds)
    (hSecond : middle.Adds next Holds) :
    w.Adds next Holds := by
  rcases hFirst with ⟨first, hMiddle, hEarly⟩
  rcases hSecond with ⟨second, hNext, hLate⟩
  refine ⟨first ++ second, ?_, ?_⟩
  · rw [hNext, hMiddle, List.append_assoc]
  · intro event hEvent
    rcases List.mem_append.mp hEvent with hEvent | hEvent
    · exact hEarly event hEvent
    · exact hLate event hEvent

theorem log
    (w : World σ)
    {level : Level}
    {message : String}
    (hMessage : Holds (.logged level message)) :
    w.Adds (w.log level message) Holds :=
  ⟨[.logged level message], rfl, by simpa using hMessage⟩

theorem warn?
    (w : World σ)
    (message? : Option String)
    (hMessage :
      ∀ message, Holds (.logged .warn message)) :
    w.Adds (w.warn? message?) Holds := by
  cases message? with
  | none => exact refl w Holds
  | some message => exact log w (hMessage message)

/- A call adds the invocation and what the program says. -/
theorem call
    (w : World σ)
    (runner : Runner σ)
    (invocation : Invocation)
    (hCalled : Holds (.called invocation))
    (hSaid :
      ∀ message ∈ (w.answer runner invocation).messages,
        Holds (.logged message.1 message.2)) :
    w.Adds (w.call runner invocation).2 Holds := by
  refine
    ⟨.called invocation ::
      (w.answer runner invocation).messages.map
        fun m => .logged m.1 m.2, ?_, ?_⟩
  · simp [World.call, World.answer]
  · intro event hEvent
    rcases List.mem_cons.mp hEvent with rfl | hEvent
    · exact hCalled
    · rcases List.mem_map.mp hEvent with
        ⟨message, hMessage, rfl⟩
      exact hSaid message hMessage

end World.Adds

------------------------------------------------------------
-- Notices of an Abort
------------------------------------------------------------

/- A message that says that the sweep is aborted. -/
def Event.IsAbortNotice (event : Event) : Prop :=
  ∃ about,
    event =
      .logged .error
        ("Aborting the sweep after the failure of " ++ about)

/- A program that is called may log the event itself. -/
def Runner.Says
    (runner : Runner σ)
    (event : Event) : Prop :=
  ∃ invocation tree programs,
    ∃ message ∈
        (runner.run invocation tree programs).messages,
      event = .logged message.1 message.2

/- Only a program may say that the sweep is aborted. -/
def Runner.Owns
    (runner : Runner σ)
    (event : Event) : Prop :=
  event.IsAbortNotice → runner.Says event

namespace Runner

variable (runner : Runner σ)

/- What is not logged as an error is no such notice. -/
theorem owns_logged
    {level : Level}
    (message : String)
    (hLevel : level ≠ .error) :
    runner.Owns (.logged level message) := by
  rintro ⟨about, hNotice⟩
  injection hNotice with hError
  exact absurd hError hLevel

theorem owns_created (dir : Path) :
    runner.Owns (.created dir) := by
  rintro ⟨about, hNotice⟩
  cases hNotice

theorem owns_called (invocation : Invocation) :
    runner.Owns (.called invocation) := by
  rintro ⟨about, hNotice⟩
  cases hNotice

/- The error of a run starts with its directory. -/
theorem owns_failure (dir : Path) (e : DispatchError) :
    runner.Owns (.logged .error s!"[{dir}] {e}") := by
  rintro ⟨about, hNotice⟩
  injection hNotice with _ hText
  have hHead :=
    congrArg (fun text => text.toList.head?) hText
  simp only [String.toList_append, List.head?_append]
    at hHead
  cases hHead

end Runner

------------------------------------------------------------
-- Events of a Run
------------------------------------------------------------

section Runs

variable (runner : Runner σ)

theorem World.adds_logSimulator
    (dir : Path)
    (result : Except DispatchError Outcome)
    (w : World σ) :
    w.Adds (Sweep.logSimulator dir result w)
      runner.Owns := by
  unfold Sweep.logSimulator
  split
  next e => exact .log w (runner.owns_failure dir e)
  next outcome =>
    split
    · exact .log w (runner.owns_logged _ (by decide))
    · exact .log w (runner.owns_logged _ (by decide))

theorem World.adds_launch
    (invocation : Invocation)
    (w : World σ) :
    w.Adds (launch runner invocation w).2 runner.Owns := by
  rw [launch_snd]
  refine .trans
    (.log w (runner.owns_logged _ (by decide)))
    (.call _ runner invocation (runner.owns_called _) ?_)
  intro message hMessage _
  exact ⟨invocation, _, _, message, hMessage, rfl⟩

theorem World.adds_run
    (step : AnalysisStep)
    (dir : Path)
    (w : World σ) :
    w.Adds (step.run runner dir w).2 runner.Owns :=
  .trans (World.adds_launch runner (step.invocation dir) w)
    (.warn? _ _
      fun _ => runner.owns_logged _ (by decide))

theorem World.adds_prepare
    (sweep : Sweep)
    (tuple : Tuple)
    (w : World σ) :
    w.Adds (sweep.prepare tuple w).2 runner.Owns := by
  unfold Sweep.prepare
  dsimp only
  split
  next tree hCreate =>
    refine .trans ?_
      (.log _ (runner.owns_logged _ (by decide)))
    exact
      ⟨[.created (sweep.outputDir tuple)], rfl, by
        simpa using runner.owns_created _⟩
  next cause hCreate =>
    split
    · exact .trans
        (.log w (runner.owns_logged _ (by decide)))
        (.log _ (runner.owns_logged _ (by decide)))
    · exact .refl w _

theorem World.adds_build
    (sweep : Sweep)
    (w : World σ) :
    w.Adds (sweep.build runner w).2 runner.Owns := by
  unfold Sweep.build
  split
  next hPrebuild =>
    let invocation := sweep.prebuildInvocation
    let told :=
      w.log .info s!"Building the simulator: {invocation}"
    have hCall :
        w.Adds (told.call runner invocation).2
          runner.Owns := by
      refine .trans
        (.log w (runner.owns_logged _ (by decide)))
        (.call told runner invocation
          (runner.owns_called _) ?_)
      intro message hMessage _
      exact ⟨invocation, _, _, message, hMessage, rfl⟩
    dsimp only
    rcases hResult : told.call runner invocation with
      ⟨cause | outcome, next⟩ <;>
    rw [hResult] at hCall
    · exact hCall
    · dsimp only
      split
      · exact hCall
      · exact hCall
  next => exact .refl w _

/-
  A sweep that starts is well-formed, has an output root and
  has its simulator built.
-/
theorem Sweep.start_eq_ok
    {sweep : Sweep}
    {w next : World σ}
    (hStart : sweep.start runner w = (.ok (), next)) :
    ∃ tree built,
      sweep.defect? = none ∧
      w.tree.createDirectories sweep.outputRoot =
        (.ok (), tree) ∧
      sweep.build runner { w with tree } = (.ok (), built) ∧
      next =
        built.log .info
          ("Total number of simulations: " ++
            s!"{sweep.grid.size} " ++
            s!"({sweep.concurrency} at a time)") := by
  unfold Sweep.start at hStart
  split at hStart
  next => cases hStart
  next hDefect =>
    unfold Sweep.createRoot at hStart
    rcases hCreate :
        w.tree.createDirectories sweep.outputRoot with
      ⟨cause | _, tree⟩
    · simp only [hCreate] at hStart
      cases hStart
    · simp only [hCreate] at hStart
      rcases hBuild :
          sweep.build runner { w with tree } with
        ⟨e | _, built⟩
      · simp only [hBuild] at hStart
        cases hStart
      · simp only [hBuild] at hStart
        cases hStart
        exact ⟨tree, built, hDefect, rfl, hBuild, rfl⟩

/- Until the first tuple is taken, the sweep does not say
   that it is aborted. -/
theorem World.adds_start
    {sweep : Sweep}
    {w next : World σ}
    (hStart : sweep.start runner w = (.ok (), next)) :
    w.Adds next runner.Owns := by
  rcases Sweep.start_eq_ok runner hStart with
    ⟨tree, built, _, _, hBuild, rfl⟩
  have hAdds :=
    World.adds_build runner sweep { w with tree }
  rw [hBuild] at hAdds
  refine World.Adds.trans ?_
    (.log built (runner.owns_logged _ (by decide)))
  exact hAdds

end Runs

end LatencySweep
