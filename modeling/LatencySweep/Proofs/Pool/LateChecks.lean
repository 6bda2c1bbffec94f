import LatencySweep.Proofs.Pool.Deeds
import LatencySweep.Proofs.Pool.Delivery

/-
  Tuples that are checked after the abort flag was raised.

  The flag is raised by the first report that calls for an
  abort and is never lowered. A tuple that is checked later
  is skipped: no move on it changes the world, and its
  report says so.

  Main declarations:
    * `Deed.Swaps`
    * `FlagFollows`
    * `IsLate`
    * `Stage.Respects`
    * `Pool.late_report`
-/

namespace LatencySweep

variable {σ : Type}
variable {sweep : Sweep} {runner : Runner σ}

------------------------------------------------------------
-- The Abort Flag
------------------------------------------------------------

/- The move swaps the abort flag, since the report that it
   judges calls for an abort. -/
def Deed.Swaps (sweep : Sweep) (deed : Deed σ) : Prop :=
  ∃ report,
    deed.worker = .judging report ∧
      sweep.isAborting report = true

/- A report on a tuple that was not run calls for none. -/
@[simp] theorem Sweep.isAborting_skippedReport
    (sweep : Sweep)
    (tuple : Tuple) :
    sweep.isAborting (sweep.skippedReport tuple) =
      false := by
  simp [isAborting, skippedReport, RunReport.status,
    RunStatus.isFatal]

/- The flag is up as soon as some move has swapped it. -/
def FlagFollows
    (sweep : Sweep)
    (past : List (Deed σ))
    (flag : Bool) : Prop :=
  flag = true ↔ ∃ deed ∈ past, deed.Swaps sweep

theorem Advance.flagFollows
    {before after : Stage}
    {flag flag' : Bool}
    {w w' : World σ}
    {past : List (Deed σ)}
    (hAdvance :
      Advance sweep runner before flag w after flag' w')
    (hPast : FlagFollows sweep past flag) :
    FlagFollows sweep (past ++ Deed.ofStage before w w')
      flag' := by
  unfold FlagFollows at hPast ⊢
  have hMembers :
      (∃ deed ∈ past ++ Deed.ofStage before w w',
          deed.Swaps sweep) ↔
        flag = true ∨
          ∃ deed ∈ Deed.ofStage before w w',
            deed.Swaps sweep := by
    rw [hPast]
    simp only [List.mem_append, or_and_right, exists_or]
  rw [hMembers]
  cases hAdvance with
  | take | receive =>
      simp [Deed.ofStage, Stage.worker?]
  | skip | proceed | prepare | refuse | simulate | misfire
  | analyze | conclude | send =>
      simp [Deed.ofStage, Stage.worker?, Deed.Swaps]
  | alarm hAborting =>
      simp [Deed.ofStage, Stage.worker?, Deed.Swaps,
        hAborting]
  | judge hCalm =>
      simpa [Deed.ofStage, Stage.worker?, Deed.Swaps]
        using hCalm

------------------------------------------------------------
-- Late Checks
------------------------------------------------------------

/- The tuple is checked by some move behind one that swaps
   the abort flag. -/
def IsLate
    (sweep : Sweep)
    (past : List (Deed σ))
    (tuple : Tuple) : Prop :=
  ∃ swap check,
    [swap, check].Sublist past ∧
      swap.Swaps sweep ∧ check.worker = .checking tuple

/- No move on the tuple has changed the world. -/
def IsQuiet (past : List (Deed σ)) (tuple : Tuple) : Prop :=
  ∀ deed ∈ past,
    deed.worker.tuple? = some tuple →
      deed.after = deed.before

/- There was no move on the tuple. -/
def IsUntouched
    (past : List (Deed σ))
    (tuple : Tuple) : Prop :=
  ∀ deed ∈ past, deed.worker.tuple? ≠ some tuple

theorem IsUntouched.not_isLate
    {past : List (Deed σ)}
    {tuple : Tuple}
    (hUntouched : IsUntouched past tuple) :
    ¬ IsLate sweep past tuple := by
  rintro ⟨swap, check, hOrder, _, hCheck⟩
  have hMember : check ∈ past :=
    hOrder.subset (by simp)
  exact hUntouched check hMember (by rw [hCheck]; rfl)

/- One more move makes a tuple late only if it checks it. -/
theorem isLate_append_iff
    {past : List (Deed σ)}
    {deed : Deed σ}
    {tuple : Tuple} :
    IsLate sweep (past ++ [deed]) tuple ↔
      IsLate sweep past tuple ∨
        deed.worker = .checking tuple ∧
          ∃ swap ∈ past, swap.Swaps sweep := by
  constructor
  · rintro ⟨swap, check, hOrder, hSwap, hCheck⟩
    rcases List.sublist_append_iff.mp hOrder with
      ⟨front, back, hPair, hFront, hBack⟩
    rcases List.sublist_singleton.mp hBack with rfl | rfl
    · rw [List.append_nil] at hPair
      exact Or.inl
        ⟨swap, check, hPair ▸ hFront, hSwap, hCheck⟩
    · have hSplit : [swap] ++ [check] = front ++ [deed] :=
        hPair
      rcases List.append_inj' hSplit rfl with
        ⟨rfl, hSame⟩
      cases hSame
      exact Or.inr
        ⟨hCheck, swap, List.singleton_sublist.mp hFront,
          hSwap⟩
  · rintro (⟨swap, check, hOrder, hRest⟩ |
      ⟨hCheck, swap, hMember, hSwap⟩)
    · exact
        ⟨swap, check,
          hOrder.trans (List.sublist_append_left _ _),
          hRest⟩
    · have hOrder :
          [swap, deed].Sublist (past ++ [deed]) :=
        (List.singleton_sublist.mpr hMember).append
          (List.Sublist.refl [deed])
      exact ⟨swap, deed, hOrder, hSwap, hCheck⟩

theorem isUntouched_append_iff
    {past : List (Deed σ)}
    {deed : Deed σ}
    {tuple : Tuple} :
    IsUntouched (past ++ [deed]) tuple ↔
      IsUntouched past tuple ∧
        deed.worker.tuple? ≠ some tuple := by
  simp [IsUntouched, or_imp, forall_and]

theorem isQuiet_append_iff
    {past : List (Deed σ)}
    {deed : Deed σ}
    {tuple : Tuple} :
    IsQuiet (past ++ [deed]) tuple ↔
      IsQuiet past tuple ∧
        (deed.worker.tuple? = some tuple →
          deed.after = deed.before) := by
  simp [IsQuiet, or_imp, forall_and]

theorem IsUntouched.isQuiet
    {past : List (Deed σ)}
    {tuple : Tuple}
    (hUntouched : IsUntouched past tuple) :
    IsQuiet past tuple :=
  fun deed hDeed hTuple =>
    absurd hTuple (hUntouched deed hDeed)

------------------------------------------------------------
-- Respect for the Flag
------------------------------------------------------------

/- A report on a late tuple says that it was skipped, and
   nothing was done about the tuple. -/
def RunReport.IsFair
    (sweep : Sweep)
    (past : List (Deed σ))
    (report : RunReport) : Prop :=
  IsLate sweep past report.tuple →
    report = sweep.skippedReport report.tuple ∧
      IsQuiet past report.tuple

/-
  A tuple that was not checked has not been touched, and one
  that is run was not checked late. Reports are fair.
-/
def Stage.Respects
    (sweep : Sweep)
    (past : List (Deed σ)) : Stage → Prop
  | .waiting tuple
  | .held (.checking tuple) => IsUntouched past tuple
  | .held (.preparing tuple)
  | .held (.simulating tuple _)
  | .held (.analyzing tuple _ _ _) =>
      ¬ IsLate sweep past tuple
  | .held (.judging report)
  | .held (.sending report)
  | .reported report => report.IsFair sweep past
  | .held .idle => True

/- One more move by a worker that checks nothing keeps a
   report fair if it does nothing about a skipped tuple. -/
theorem RunReport.IsFair.append
    {past : List (Deed σ)}
    {deed : Deed σ}
    {report : RunReport}
    (hFair : report.IsFair sweep past)
    (hUnchecked :
      deed.worker ≠ .checking report.tuple)
    (hQuiet :
      report = sweep.skippedReport report.tuple →
      deed.worker.tuple? = some report.tuple →
      deed.after = deed.before) :
    report.IsFair sweep (past ++ [deed]) := by
  intro hLate
  rcases isLate_append_iff.mp hLate with
    hLate | ⟨hCheck, _⟩
  · rcases hFair hLate with ⟨hSkipped, hPast⟩
    exact
      ⟨hSkipped,
        isQuiet_append_iff.mpr ⟨hPast, hQuiet hSkipped⟩⟩
  · exact absurd hCheck hUnchecked

/- One more move on a tuple that is run does not make it
   late. -/
theorem not_isLate_append
    {past : List (Deed σ)}
    {deed : Deed σ}
    {tuple : Tuple}
    (hPast : ¬ IsLate sweep past tuple)
    (hUnchecked : deed.worker ≠ .checking tuple) :
    ¬ IsLate sweep (past ++ [deed]) tuple := by
  intro hLate
  rcases isLate_append_iff.mp hLate with
    hLate | ⟨hCheck, _⟩
  · exact hPast hLate
  · exact hUnchecked hCheck

/- A move on another tuple leaves a stage as respectful as
   it was. -/
theorem Stage.Respects.append
    {stage before : Stage}
    {past : List (Deed σ)}
    (hRespects : stage.Respects sweep past)
    (w next : World σ)
    (hOther : before.tuple? ≠ stage.tuple?) :
    stage.Respects sweep
      (past ++ Deed.ofStage before w next) := by
  cases before with
  | waiting tuple =>
      rwa [Deed.append_ofStage past w next rfl]
  | reported report =>
      rwa [Deed.append_ofStage past w next rfl]
  | held worker =>
      let deed : Deed σ :=
        { worker, before := w, after := next }
      have hDeed :
          Deed.ofStage (.held worker) w next = [deed] := rfl
      have hUnchecked {tuple : Tuple}
          (hTuple : stage.tuple? = some tuple) :
          worker ≠ .checking tuple := by
        rintro rfl
        exact hOther hTuple.symm
      have hFair {report : RunReport}
          (hTuple : stage.tuple? = some report.tuple)
          (hReport : report.IsFair sweep past) :
          report.IsFair sweep (past ++ [deed]) :=
        hReport.append (hUnchecked hTuple)
          fun _ hSame => absurd (hSame.trans hTuple.symm)
            hOther
      rw [hDeed]
      cases stage with
      | waiting tuple =>
          exact
            isUntouched_append_iff.mpr ⟨hRespects, hOther⟩
      | reported report => exact hFair rfl hRespects
      | held other =>
          cases other with
          | idle => trivial
          | checking tuple =>
              exact
                isUntouched_append_iff.mpr
                  ⟨hRespects, hOther⟩
          | preparing | simulating | analyzing =>
              exact
                not_isLate_append hRespects (hUnchecked rfl)
          | judging report | sending report =>
              exact hFair rfl hRespects

/- An advance keeps respecting the flag. -/
theorem Advance.respects
    {before after : Stage}
    {flag flag' : Bool}
    {w w' : World σ}
    {past : List (Deed σ)}
    (hAdvance :
      Advance sweep runner before flag w after flag' w')
    (hPast : FlagFollows sweep past flag)
    (hBefore : before.Respects sweep past) :
    after.Respects sweep
      (past ++ Deed.ofStage before w w') := by
  cases hAdvance with
  | take =>
      rw [Deed.append_ofStage past w w rfl]
      exact hBefore
  | receive =>
      rw [Deed.append_ofStage past w w rfl]
      exact hBefore
  | skip =>
      intro _
      refine ⟨rfl, isQuiet_append_iff.mpr ⟨?_, ?_⟩⟩
      · exact IsUntouched.isQuiet hBefore
      · exact fun _ => rfl
  | proceed =>
      intro hLate
      rcases isLate_append_iff.mp hLate with
        hLate | ⟨_, hSwapped⟩
      · exact IsUntouched.not_isLate hBefore hLate
      · exact Bool.noConfusion (hPast.mpr hSwapped)
  | prepare | simulate | analyze =>
      exact not_isLate_append hBefore nofun
  | refuse | misfire | conclude =>
      intro hLate
      exact absurd hLate (not_isLate_append hBefore nofun)
  | @alarm report w hAborting =>
      have hUnskipped :
          report ≠ sweep.skippedReport report.tuple := by
        intro hSkipped
        rw [hSkipped, Sweep.isAborting_skippedReport]
          at hAborting
        cases hAborting
      exact RunReport.IsFair.append hBefore nofun
        fun hSkipped _ => absurd hSkipped hUnskipped
  | judge | send =>
      exact RunReport.IsFair.append hBefore nofun
        fun _ _ => rfl

------------------------------------------------------------
-- Late Reports
------------------------------------------------------------

namespace Pool

/- What is kept of a sweep whose flag is respected. -/
structure IsHeeded
    (sweep : Sweep)
    (past : List (Deed σ))
    (stages : List Stage)
    (flag : Bool) : Prop where
  flag_follows : FlagFollows sweep past flag
  nodup : (stages.filterMap Stage.tuple?).Nodup
  respects :
    ∀ stage ∈ stages, stage.Respects sweep past

/- Each advance keeps it. -/
theorem IsHeeded.advance
    {past : List (Deed σ)}
    {before after : Stage}
    {others : List Stage}
    {flag flag' : Bool}
    {w w' : World σ}
    (hAdvance :
      Advance sweep runner before flag w after flag' w')
    (hPast :
      IsHeeded sweep past (before :: others) flag) :
    IsHeeded sweep (past ++ Deed.ofStage before w w')
      (after :: others) flag' := by
  refine
    { flag_follows :=
        hAdvance.flagFollows hPast.flag_follows
      nodup := ?_
      respects := ?_ }
  · have hNodup := hPast.nodup
    rw [List.filterMap_cons] at hNodup ⊢
    rwa [hAdvance.tuple?_eq]
  · intro stage hStage
    rcases List.mem_cons.mp hStage with rfl | hOther
    · exact hAdvance.respects hPast.flag_follows
        (hPast.respects before List.mem_cons_self)
    · have hStage :=
        hPast.respects stage (List.mem_cons_of_mem _ hOther)
      rcases hAdvance.exists_tuple with ⟨tuple, hTuple⟩
      apply hStage.append w w'
      intro hSame
      have hNodup := hPast.nodup
      rw [List.filterMap_cons_some hTuple] at hNodup
      apply (List.nodup_cons.mp hNodup).1
      apply List.mem_filterMap.mpr
      exact ⟨stage, hOther, hSame.symm.trans hTuple⟩

/- Nothing has been done before the first move. -/
theorem isHeeded_start
    (sweep : Sweep)
    (w : World σ) :
    IsHeeded sweep ([] : List (Deed σ))
      (start sweep w).stages (start sweep w).aborted := by
  refine
    { flag_follows := ?_
      nodup := ?_
      respects := ?_ }
  · simp [FlagFollows, start]
  · rw [← tuples_eq_filterMap_stages, tuples_start]
    exact sweep.grid.nodup_tuples
  · intro stage hStage
    rw [stages_start] at hStage
    rcases List.mem_map.mp hStage with ⟨tuple, _, rfl⟩
    simp [Stage.Respects, IsUntouched]

/- The flag is respected throughout. -/
theorem IsHeeded.of_follow
    {moves : List Move}
    {w : World σ}
    {pool : Pool σ}
    (hFollow :
      (Pool.start sweep w).follow? sweep runner moves =
        some pool) :
    IsHeeded sweep
      ((Pool.start sweep w).deeds sweep runner moves)
      pool.stages pool.aborted := by
  refine deeds_induction
    (fun past stages flag _ =>
      IsHeeded sweep past stages flag)
    ?_ (fun hAdvance _ => IsHeeded.advance hAdvance)
    [] hFollow rfl (isHeeded_start sweep w)
  intro past stages others flag _ hPerm hPast
  exact
    { flag_follows := hPast.flag_follows
      nodup :=
        (hPerm.filterMap Stage.tuple?).nodup_iff.mp
          hPast.nodup
      respects := fun stage hStage =>
        hPast.respects stage (hPerm.symm.subset hStage) }

/- In the end, all reports are fair. -/
theorem isFair_of_follow
    {moves : List Move}
    {w : World σ}
    {pool : Pool σ}
    {report : RunReport}
    (hFollow :
      (Pool.start sweep w).follow? sweep runner moves =
        some pool)
    (hDone : pool.IsDone)
    (hReport : report ∈ pool.received) :
    report.IsFair sweep
      ((Pool.start sweep w).deeds sweep runner moves) := by
  have hRespects := (IsHeeded.of_follow hFollow).respects
  rw [stages_of_isDone hDone] at hRespects
  exact hRespects (.reported report)
    (List.mem_map_of_mem hReport)

/- A tuple that was checked late is left alone, and the only
   report on it says that it was skipped. -/
theorem late_report
    {moves : List Move}
    {w : World σ}
    {pool : Pool σ}
    {tuple : Tuple}
    (hFollow :
      (Pool.start sweep w).follow? sweep runner moves =
        some pool)
    (hDone : pool.IsDone)
    (hTuple : tuple ∈ sweep.grid.tuples)
    (hLate :
      IsLate sweep
        ((Pool.start sweep w).deeds sweep runner moves)
        tuple) :
    IsQuiet
        ((Pool.start sweep w).deeds sweep runner moves)
        tuple ∧
      sweep.skippedReport tuple ∈ pool.received ∧
      ∀ report ∈ pool.received,
        report.tuple = tuple →
          report = sweep.skippedReport tuple := by
  have hReceived :=
    (received_perm_grid hFollow hDone).symm.subset hTuple
  rcases List.mem_map.mp hReceived with
    ⟨report, hReport, rfl⟩
  rcases isFair_of_follow hFollow hDone hReport hLate with
    ⟨hSkipped, hQuiet⟩
  refine ⟨hQuiet, hSkipped ▸ hReport, ?_⟩
  intro other hOther hSame
  have hFair := isFair_of_follow hFollow hDone hOther
  rw [← hSame] at hLate ⊢
  exact (hFair hLate).1

end Pool

end LatencySweep
