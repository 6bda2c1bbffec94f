import LatencySweep.Proofs.Pool.Deeds
import LatencySweep.Proofs.Pool.Delivery

/-
  The life of a tuple.

  The deeds on a tuple follow each other as its stages do,
  whatever is done about other tuples in between. So what
  holds of a tuple is proved by cases on its own advances,
  for any worlds in which these may happen.

  Main declarations:
    * `deedsOn`
    * `Life`
    * `Pool.life_of_follow`
    * `Pool.life_of_received`
-/

namespace LatencySweep

variable {σ : Type}
variable {sweep : Sweep} {runner : Runner σ}

------------------------------------------------------------
-- Deeds on a Tuple
------------------------------------------------------------

/- The moves of workers that have taken the tuple. -/
def deedsOn
    (tuple : Tuple)
    (past : List (Deed σ)) : List (Deed σ) :=
  past.filter fun deed => deed.worker.tuple? = some tuple

theorem mem_deedsOn_iff
    {tuple : Tuple}
    {past : List (Deed σ)}
    {deed : Deed σ} :
    deed ∈ deedsOn tuple past ↔
      deed ∈ past ∧ deed.worker.tuple? = some tuple := by
  unfold deedsOn
  rw [List.mem_filter, decide_eq_true_eq]

/- An advance of a tuple is one more deed on it. -/
theorem deedsOn_append
    {stage : Stage}
    {tuple : Tuple}
    (past : List (Deed σ))
    (w next : World σ)
    (hTuple : stage.tuple? = some tuple) :
    deedsOn tuple (past ++ Deed.ofStage stage w next) =
      deedsOn tuple past ++ Deed.ofStage stage w next := by
  unfold deedsOn
  rw [List.filter_append]
  congr 1
  apply List.filter_eq_self.mpr
  intro deed hDeed
  rcases Deed.mem_ofStage_iff.mp hDeed with ⟨rfl, -, -⟩
  exact decide_eq_true hTuple

/- An advance of another tuple is not. -/
theorem deedsOn_append_of_ne
    {stage : Stage}
    {tuple : Tuple}
    (past : List (Deed σ))
    (w next : World σ)
    (hOther : stage.tuple? ≠ some tuple) :
    deedsOn tuple (past ++ Deed.ofStage stage w next) =
      deedsOn tuple past := by
  unfold deedsOn
  rw [List.filter_append, List.append_right_eq_self]
  apply List.filter_eq_nil_iff.mpr
  intro deed hDeed
  rcases Deed.mem_ofStage_iff.mp hDeed with ⟨rfl, -, -⟩
  rw [decide_eq_true_eq]
  exact hOther

------------------------------------------------------------
-- Lives
------------------------------------------------------------

/- The deeds on a tuple by which it comes to a stage, in
   whatever worlds. -/
inductive Life
    (sweep : Sweep)
    (runner : Runner σ)
    (tuple : Tuple) : List (Deed σ) → Stage → Prop where
  | waiting : Life sweep runner tuple [] (.waiting tuple)
  | advance {own before after flag flag' w w'} :
      Life sweep runner tuple own before →
        Advance sweep runner before flag w after flag' w' →
          Life sweep runner tuple
            (own ++ Deed.ofStage before w w') after

theorem Life.tuple?_eq
    {tuple : Tuple}
    {own : List (Deed σ)}
    {stage : Stage}
    (hLife : Life sweep runner tuple own stage) :
    stage.tuple? = some tuple := by
  induction hLife with
  | waiting => rfl
  | advance _ hAdvance ih => rw [hAdvance.tuple?_eq, ih]

/- Each deed is done at a stage to which the deeds before it
   have led. -/
theorem Life.exists_of_mem
    {tuple : Tuple}
    {own : List (Deed σ)}
    {stage : Stage}
    {deed : Deed σ}
    (hLife : Life sweep runner tuple own stage)
    (hDeed : deed ∈ own) :
    ∃ past,
      Life sweep runner tuple past (.held deed.worker) ∧
        (past ++ [deed]).Sublist own := by
  induction hLife with
  | waiting => cases hDeed
  | @advance own before _ _ _ w w' hBefore _ ih =>
      rcases List.mem_append.mp hDeed with hOld | hNew
      · rcases ih hOld with ⟨past, hPast, hOrder⟩
        exact
          ⟨past, hPast,
            hOrder.trans (List.sublist_append_left _ _)⟩
      · rcases Deed.mem_ofStage_iff.mp hNew with
          ⟨rfl, -, -⟩
        exact
          ⟨own, hBefore,
            (List.Sublist.refl own).append
              (List.singleton_sublist.mpr hNew)⟩

namespace Pool

/- Each tuple is at one stage, to which its life has led. -/
structure AreAlive
    (sweep : Sweep)
    (runner : Runner σ)
    (past : List (Deed σ))
    (stages : List Stage) : Prop where
  nodup : (stages.filterMap Stage.tuple?).Nodup
  lives :
    ∀ stage ∈ stages,
      ∀ tuple,
        stage.tuple? = some tuple →
          Life sweep runner tuple (deedsOn tuple past) stage
  known :
    ∀ deed ∈ past,
      ∀ tuple,
        deed.worker.tuple? = some tuple →
          tuple ∈ stages.filterMap Stage.tuple?

theorem AreAlive.advance
    {past : List (Deed σ)}
    {before after : Stage}
    {others : List Stage}
    {flag flag' : Bool}
    {w w' : World σ}
    (hAdvance :
      Advance sweep runner before flag w after flag' w')
    (hPast :
      AreAlive sweep runner past (before :: others)) :
    AreAlive sweep runner
      (past ++ Deed.ofStage before w w')
      (after :: others) := by
  have hNodup := hPast.nodup
  have hTuples :
      (after :: others).filterMap Stage.tuple? =
        (before :: others).filterMap Stage.tuple? := by
    rw [List.filterMap_cons, List.filterMap_cons,
      hAdvance.tuple?_eq]
  refine { nodup := ?_, lives := ?_, known := ?_ }
  · rwa [hTuples]
  · intro stage hStage tuple hTuple
    rcases List.mem_cons.mp hStage with rfl | hOther
    · rw [hAdvance.tuple?_eq] at hTuple
      rw [deedsOn_append past w w' hTuple]
      exact
        Life.advance
          (hPast.lives before List.mem_cons_self tuple hTuple)
          hAdvance
    · have hDiffer : before.tuple? ≠ some tuple := by
        intro hSame
        rw [List.filterMap_cons_some hSame] at hNodup
        apply (List.nodup_cons.mp hNodup).1
        exact List.mem_filterMap.mpr ⟨stage, hOther, hTuple⟩
      rw [deedsOn_append_of_ne past w w' hDiffer]
      exact
        hPast.lives stage (List.mem_cons_of_mem _ hOther)
          tuple hTuple
  · intro deed hDeed tuple hTuple
    rw [hTuples]
    rcases List.mem_append.mp hDeed with hOld | hNew
    · exact hPast.known deed hOld tuple hTuple
    · rcases Deed.mem_ofStage_iff.mp hNew with ⟨rfl, -, -⟩
      exact
        List.mem_filterMap.mpr
          ⟨_, List.mem_cons_self, hTuple⟩

/- At any time, each tuple has lived up to its stage. -/
theorem life_of_follow
    {moves : List Move}
    {w : World σ}
    {pool : Pool σ}
    (hFollow :
      (start sweep w).follow? sweep runner moves =
        some pool) :
    AreAlive sweep runner
      ((start sweep w).deeds sweep runner moves)
      pool.stages := by
  refine deeds_induction
    (fun past stages _ _ =>
      AreAlive sweep runner past stages)
    ?_ (fun hAdvance _ => AreAlive.advance hAdvance)
    [] hFollow rfl ?_
  · intro past stages others _ _ hPerm hPast
    exact
      { nodup :=
          (hPerm.filterMap Stage.tuple?).nodup_iff.mp
            hPast.nodup
        lives := fun stage hStage =>
          hPast.lives stage (hPerm.symm.subset hStage)
        known := fun deed hDeed tuple hTuple =>
          (hPerm.filterMap Stage.tuple?).subset
            (hPast.known deed hDeed tuple hTuple) }
  · refine { nodup := ?_, lives := ?_, known := nofun }
    · rw [← tuples_eq_filterMap_stages, tuples_start]
      exact sweep.grid.nodup_tuples
    · intro stage hStage tuple hTuple
      rw [stages_start] at hStage
      rcases List.mem_map.mp hStage with ⟨other, _, rfl⟩
      cases hTuple
      exact Life.waiting

/- So a tuple that was worked on has a life. -/
theorem life_of_deed
    {moves : List Move}
    {w : World σ}
    {pool : Pool σ}
    (hFollow :
      (start sweep w).follow? sweep runner moves =
        some pool)
    {deed : Deed σ}
    (hDeed :
      deed ∈ (start sweep w).deeds sweep runner moves)
    {tuple : Tuple}
    (hTuple : deed.worker.tuple? = some tuple) :
    ∃ stage ∈ pool.stages,
      Life sweep runner tuple
        (deedsOn tuple
          ((start sweep w).deeds sweep runner moves))
        stage := by
  have hAlive := life_of_follow hFollow
  have hKnown := hAlive.known deed hDeed tuple hTuple
  rcases List.mem_filterMap.mp hKnown with
    ⟨stage, hStage, hSame⟩
  exact ⟨stage, hStage, hAlive.lives stage hStage tuple hSame⟩

/- In the end, the life of a tuple has led to its report. -/
theorem life_of_received
    {moves : List Move}
    {w : World σ}
    {pool : Pool σ}
    (hFollow :
      (start sweep w).follow? sweep runner moves =
        some pool)
    (hDone : pool.IsDone)
    {report : RunReport}
    (hReport : report ∈ pool.received) :
    Life sweep runner report.tuple
      (deedsOn report.tuple
        ((start sweep w).deeds sweep runner moves))
      (.reported report) := by
  have hLives := (life_of_follow hFollow).lives
  rw [stages_of_isDone hDone] at hLives
  exact
    hLives (.reported report) (List.mem_map_of_mem hReport)
      report.tuple rfl

/- In the end, there is a report on each tuple that was
   worked on. -/
theorem exists_received_of_deed
    {moves : List Move}
    {w : World σ}
    {pool : Pool σ}
    (hFollow :
      (start sweep w).follow? sweep runner moves =
        some pool)
    (hDone : pool.IsDone)
    {deed : Deed σ}
    (hDeed :
      deed ∈ (start sweep w).deeds sweep runner moves)
    {tuple : Tuple}
    (hTuple : deed.worker.tuple? = some tuple) :
    ∃ report ∈ pool.received, report.tuple = tuple := by
  rcases life_of_deed hFollow hDeed hTuple with
    ⟨stage, hStage, hLife⟩
  rw [stages_of_isDone hDone] at hStage
  rcases List.mem_map.mp hStage with ⟨report, hReport, rfl⟩
  exact
    ⟨report, hReport, Option.some.inj hLife.tuple?_eq⟩

end Pool

end LatencySweep
