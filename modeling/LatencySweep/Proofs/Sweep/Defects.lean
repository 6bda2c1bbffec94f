import LatencySweep.Proofs.Sweep.AxisDefects
import LatencySweep.Proofs.Sweep.Validity

/-
  A sweep is accepted if it is well-formed, and refused for
  its first defect otherwise.

  Directories come last. Their names are gone through in the
  order of the tuples, and those that were met are known
  with the one tuple they belong to, since the search ends
  with the first name that is met again.

  Main declarations:
    * `Sweep.nameAt?`
    * `Sweep.IsFirstCollision`
    * `Sweep.IsWellFormed`
    * `Sweep.FirstDefect`
    * `Sweep.validation`
-/

namespace LatencySweep

namespace Sweep

variable {sweep : Sweep}

------------------------------------------------------------
-- Directory Names
------------------------------------------------------------

/- The directory name of the tuple with a number. -/
def nameAt? (sweep : Sweep) (index : Nat) : Option String :=
  (sweep.grid.get? index).map sweep.directoryName

theorem exists_nameAt?
    {index : Nat}
    (hIndex : index < sweep.grid.size) :
    ∃ name, sweep.nameAt? index = some name := by
  rcases sweep.grid.exists_get? hIndex with ⟨tuple, hTuple⟩
  refine ⟨sweep.directoryName tuple, ?_⟩
  rw [nameAt?, hTuple, Option.map_some]

theorem lt_size_of_nameAt?
    {index : Nat}
    {name : String}
    (hName : sweep.nameAt? index = some name) :
    index < sweep.grid.size := by
  by_contra hLe
  rw [nameAt?, Grid.get?, if_neg hLe] at hName
  cases hName

/- Different tuples have different directory names. -/
def HasDistinctNames (sweep : Sweep) : Prop :=
  ∀ i j, i < sweep.grid.size → j < sweep.grid.size →
    sweep.nameAt? i = sweep.nameAt? j → i = j

/- The second tuple is the first one whose name belongs to
   an earlier tuple, and that can only be the first one. -/
structure IsFirstCollision
    (sweep : Sweep)
    (name : String)
    (first second : Nat) : Prop where
  less : first < second
  nameFirst : sweep.nameAt? first = some name
  nameSecond : sweep.nameAt? second = some name
  least :
    ∀ i j, i < j → j < second →
      sweep.nameAt? i ≠ sweep.nameAt? j
  only :
    ∀ i, i < second → sweep.nameAt? i = some name →
      i = first

/- The known names are those of the tuples below a number,
   each with the only tuple it belongs to. -/
def Knows
    (sweep : Sweep)
    (seen : List (String × Nat))
    (index : Nat) : Prop :=
  ∀ name i,
    seen.lookup name = some i ↔
      i < index ∧ sweep.nameAt? i = some name

namespace Knows

variable {seen : List (String × Nat)}
variable {index : Nat}

theorem nil : sweep.Knows [] 0 := by
  intro name i
  simp

/- A new name is known from then on. -/
theorem cons
    {name : String}
    (hKnows : sweep.Knows seen index)
    (hName : sweep.nameAt? index = some name)
    (hNew : seen.lookup name = none) :
    sweep.Knows ((name, index) :: seen) (index + 1) := by
  intro other i
  by_cases hSame : other = name
  · subst hSame
    rw [List.lookup_cons_self]
    constructor
    · intro hIndex
      cases hIndex
      exact ⟨Nat.lt_succ_self _, hName⟩
    · rintro ⟨hLess, hOther⟩
      by_contra hNe
      have hBelow : i < index := by
        have hNot : index ≠ i := fun h => hNe (by rw [h])
        omega
      rw [(hKnows other i).mpr ⟨hBelow, hOther⟩] at hNew
      cases hNew
  · have hBeq : (other == name) = false := by simpa using hSame
    rw [List.lookup_cons, hBeq]
    dsimp only
    rw [hKnows other i]
    constructor
    · rintro ⟨hLess, hOther⟩
      exact ⟨by omega, hOther⟩
    · rintro ⟨hLess, hOther⟩
      refine ⟨?_, hOther⟩
      have hNe : i ≠ index := by
        rintro rfl
        rw [hName] at hOther
        exact hSame (Option.some.inj hOther).symm
      omega

/- Known names tell their tuples. -/
theorem eq_of_name
    (hKnows : sweep.Knows seen index)
    {i j : Nat}
    {name : String}
    (hI : i < index)
    (hJ : j < index)
    (hNameI : sweep.nameAt? i = some name)
    (hNameJ : sweep.nameAt? j = some name) :
    i = j := by
  have hLookI := (hKnows name i).mpr ⟨hI, hNameI⟩
  have hLookJ := (hKnows name j).mpr ⟨hJ, hNameJ⟩
  rw [hLookI] at hLookJ
  exact Option.some.inj hLookJ

/- A known name that is met again is the first collision. -/
theorem isFirstCollision
    {name : String}
    {first : Nat}
    (hKnows : sweep.Knows seen index)
    (hIndex : index < sweep.grid.size)
    (hName : sweep.nameAt? index = some name)
    (hFirst : seen.lookup name = some first) :
    sweep.IsFirstCollision name first index := by
  rcases (hKnows name first).mp hFirst with
    ⟨hLess, hNameFirst⟩
  refine
    { less := hLess
      nameFirst := hNameFirst
      nameSecond := hName
      least := ?_
      only := ?_ }
  · intro i j hIJ hJ hSame
    rcases exists_nameAt? (Nat.lt_trans hJ hIndex) with
      ⟨other, hOther⟩
    have hEq :=
      hKnows.eq_of_name (Nat.lt_trans hIJ hJ) hJ
        (hSame.trans hOther) hOther
    omega
  · intro i hI hNameI
    exact hKnows.eq_of_name hI hLess hNameI hNameFirst

end Knows

/-
  The search finds the first collision. If it finds none,
  all names are known in the end.
-/
theorem collisionFrom?_cases
    {seen : List (String × Nat)}
    {left index : Nat}
    (hKnows : sweep.Knows seen index)
    (hSize : index + left = sweep.grid.size) :
    (sweep.collisionFrom? seen left index = none ∧
        ∃ seen', sweep.Knows seen' sweep.grid.size) ∨
      ∃ name first second,
        sweep.collisionFrom? seen left index =
            some (.directoryCollision name first second) ∧
          sweep.IsFirstCollision name first second := by
  induction left generalizing seen index with
  | zero =>
      rw [Nat.add_zero] at hSize
      exact Or.inl ⟨rfl, seen, hSize ▸ hKnows⟩
  | succ left ih =>
      have hIndex : index < sweep.grid.size := by omega
      rcases sweep.grid.exists_get? hIndex with
        ⟨tuple, hTuple⟩
      have hName :
          sweep.nameAt? index =
            some (sweep.directoryName tuple) := by
        rw [nameAt?, hTuple, Option.map_some]
      rw [collisionFrom?, hTuple]
      dsimp only
      cases hSeen :
          seen.lookup (sweep.directoryName tuple) with
      | none =>
          exact ih (hKnows.cons hName hSeen) (by omega)
      | some first =>
          exact
            Or.inr
              ⟨_, first, index, rfl,
                hKnows.isFirstCollision hIndex hName hSeen⟩

theorem collision?_cases (sweep : Sweep) :
    (sweep.collision? = none ∧
        ∃ seen, sweep.Knows seen sweep.grid.size) ∨
      ∃ name first second,
        sweep.collision? =
            some (.directoryCollision name first second) ∧
          sweep.IsFirstCollision name first second :=
  collisionFrom?_cases Knows.nil (Nat.zero_add _)

/- There is only one first collision. -/
theorem IsFirstCollision.unique
    {name name' : String}
    {first second first' second' : Nat}
    (hCollision : sweep.IsFirstCollision name first second)
    (hCollision' :
      sweep.IsFirstCollision name' first' second') :
    name = name' ∧ first = first' ∧ second = second' := by
  have hSecond : second = second' := by
    rcases Nat.lt_trichotomy second second' with
      hLess | hSame | hLess
    · exact
        absurd
          (hCollision.nameFirst.trans hCollision.nameSecond.symm)
          (hCollision'.least _ _ hCollision.less hLess)
    · exact hSame
    · exact
        absurd
          (hCollision'.nameFirst.trans hCollision'.nameSecond.symm)
          (hCollision.least _ _ hCollision'.less hLess)
  subst hSecond
  have hName : name = name' :=
    Option.some.inj
      (hCollision.nameSecond.symm.trans hCollision'.nameSecond)
  subst hName
  exact
    ⟨rfl, hCollision'.only first hCollision.less
      hCollision.nameFirst, rfl⟩

theorem collision?_eq_none_iff :
    sweep.collision? = none ↔ sweep.HasDistinctNames := by
  rcases sweep.collision?_cases with
    ⟨hNone, seen, hKnows⟩ |
      ⟨name, first, second, hSome, hCollision⟩
  · refine iff_of_true hNone ?_
    intro i j hI hJ hSame
    rcases exists_nameAt? hJ with ⟨name, hName⟩
    exact
      hKnows.eq_of_name hI hJ (hSame.trans hName) hName
  · refine iff_of_false ?_ ?_
    · rw [hSome]
      exact nofun
    · intro hDistinct
      have hSame :=
        hDistinct first second
          (lt_size_of_nameAt? hCollision.nameFirst)
          (lt_size_of_nameAt? hCollision.nameSecond)
          (hCollision.nameFirst.trans hCollision.nameSecond.symm)
      exact Nat.ne_of_lt hCollision.less hSame

theorem collision?_eq_some_iff
    {defect : SweepDefect} :
    sweep.collision? = some defect ↔
      ∃ name first second,
        defect = .directoryCollision name first second ∧
          sweep.IsFirstCollision name first second := by
  constructor
  · intro hDefect
    rcases sweep.collision?_cases with
      ⟨hNone, _⟩ | ⟨name, first, second, hSome, hCollision⟩
    · rw [hNone] at hDefect
      cases hDefect
    · rw [hSome] at hDefect
      cases hDefect
      exact ⟨name, first, second, rfl, hCollision⟩
  · rintro ⟨name, first, second, rfl, hCollision⟩
    rcases sweep.collision?_cases with
      ⟨_, seen, hKnows⟩ |
        ⟨name', first', second', hSome, hCollision'⟩
    · have hSame :=
        hKnows.eq_of_name
          (lt_size_of_nameAt? hCollision.nameFirst)
          (lt_size_of_nameAt? hCollision.nameSecond)
          hCollision.nameFirst hCollision.nameSecond
      exact absurd hSame (Nat.ne_of_lt hCollision.less)
    · rcases hCollision.unique hCollision' with
        ⟨rfl, rfl, rfl⟩
      exact hSome

------------------------------------------------------------
-- Sweeps
------------------------------------------------------------

/- The sweep has axes and workers, its axes have values and
   share no keys, its texts can stand in names, and no two
   tuples have the same directory name. -/
structure IsWellFormed (sweep : Sweep) : Prop where
  axes : sweep.axes ≠ []
  workers : 1 ≤ sweep.concurrency
  values : ∀ axis ∈ sweep.axes, axis.values ≠ []
  names : (sweep.axes.map Axis.name).Nodup
  flags : (sweep.axes.map Axis.flag).Nodup
  tokens : (sweep.axes.map Axis.token).Nodup
  texts : ∀ axis ∈ sweep.axes, AreNameable axis.values
  directories : sweep.HasDistinctNames

/- What is wrong first with a sweep. -/
inductive FirstDefect (sweep : Sweep) : SweepDefect → Prop where
  | noAxes
      (hAxes : sweep.axes = []) :
      FirstDefect sweep .noAxes
  | zeroConcurrency
      (hAxes : sweep.axes ≠ [])
      (hWorkers : sweep.concurrency = 0) :
      FirstDefect sweep .zeroConcurrency
  | axis
      (hWorkers : 1 ≤ sweep.concurrency)
      {front back : List Axis}
      {axis : Axis}
      {defect : SweepDefect}
      (hSplit : sweep.axes = front ++ axis :: back)
      (hFront : AreSound [] front)
      (hDefect : axis.FirstDefect front defect) :
      FirstDefect sweep defect
  | collision
      (hAxes : sweep.axes ≠ [])
      (hWorkers : 1 ≤ sweep.concurrency)
      (hSound : AreSound [] sweep.axes)
      {name : String}
      {first second : Nat}
      (hCollision :
        sweep.IsFirstCollision name first second) :
      FirstDefect sweep
        (.directoryCollision name first second)

theorem defect?_eq_none_iff :
    sweep.defect? = none ↔ sweep.IsWellFormed := by
  change sweep.IsValid ↔ _
  rw [isValid_iff, axesDefect?_eq_none_iff,
    areSound_nil_iff, collision?_eq_none_iff]
  constructor
  · rintro ⟨hAxes, hWorkers, ⟨hValues, hNames, hFlags,
      hTokens, hTexts⟩, hDirectories⟩
    exact
      { axes := hAxes
        workers := Nat.one_le_iff_ne_zero.mpr hWorkers
        values := hValues
        names := hNames
        flags := hFlags
        tokens := hTokens
        texts := hTexts
        directories := hDirectories }
  · intro hSweep
    exact
      ⟨hSweep.axes,
        Nat.one_le_iff_ne_zero.mp hSweep.workers,
        ⟨hSweep.values, hSweep.names, hSweep.flags,
          hSweep.tokens, hSweep.texts⟩,
        hSweep.directories⟩

/- What is found behind sound beginnings. -/
theorem defect?_of_axes
    (hAxes : sweep.axes ≠ [])
    (hWorkers : 1 ≤ sweep.concurrency) :
    sweep.defect? =
      (axesDefect? [] sweep.axes).or sweep.collision? := by
  rw [defect?, if_neg hAxes,
    if_neg (Nat.one_le_iff_ne_zero.mp hWorkers)]
  cases axesDefect? [] sweep.axes <;> rfl

theorem defect?_eq_some_iff
    {defect : SweepDefect} :
    sweep.defect? = some defect ↔
      sweep.FirstDefect defect := by
  constructor
  · intro hDefect
    by_cases hAxes : sweep.axes = []
    · rw [defect?, if_pos hAxes] at hDefect
      cases hDefect
      exact .noAxes hAxes
    by_cases hZero : sweep.concurrency = 0
    · rw [defect?, if_neg hAxes, if_pos hZero] at hDefect
      cases hDefect
      exact .zeroConcurrency hAxes hZero
    have hWorkers : 1 ≤ sweep.concurrency :=
      Nat.one_le_iff_ne_zero.mpr hZero
    rw [defect?_of_axes hAxes hWorkers,
      Option.or_eq_some_iff, axesDefect?_eq_some_iff,
      axesDefect?_eq_none_iff, collision?_eq_some_iff]
      at hDefect
    rcases hDefect with
      ⟨front, axis, back, hSplit, hFront, hAxis⟩ |
        ⟨hSound, name, first, second, rfl, hCollision⟩
    · exact .axis hWorkers hSplit hFront hAxis
    · exact .collision hAxes hWorkers hSound hCollision
  · intro hDefect
    cases hDefect with
    | noAxes hAxes => rw [defect?, if_pos hAxes]
    | zeroConcurrency hAxes hZero =>
        rw [defect?, if_neg hAxes, if_pos hZero]
    | @axis hWorkers front back axis _ hSplit hFront hAxis =>
        have hAxes : sweep.axes ≠ [] := by
          rw [hSplit]
          exact List.append_ne_nil_of_right_ne_nil _
            (List.cons_ne_nil _ _)
        rw [defect?_of_axes hAxes hWorkers,
          Option.or_eq_some_iff, axesDefect?_eq_some_iff]
        exact
          Or.inl ⟨front, axis, back, hSplit, hFront, hAxis⟩
    | collision hAxes hWorkers hSound hCollision =>
        rw [defect?_of_axes hAxes hWorkers,
          Option.or_eq_some_iff, axesDefect?_eq_none_iff,
          collision?_eq_some_iff]
        exact Or.inr ⟨hSound, _, _, _, rfl, hCollision⟩

/- A sweep is accepted if it is well-formed. Otherwise the
   first defect is named. -/
theorem validation (sweep : Sweep) :
    (sweep.IsValid ↔ sweep.IsWellFormed) ∧
      ∀ defect,
        sweep.defect? = some defect ↔
          sweep.FirstDefect defect :=
  ⟨defect?_eq_none_iff, fun _ => defect?_eq_some_iff⟩

end Sweep

end LatencySweep
