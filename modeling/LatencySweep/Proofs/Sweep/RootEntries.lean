import LatencySweep.Proofs.FileTree.Create
import LatencySweep.Proofs.Path.Files
import LatencySweep.Proofs.Sweep.OutputPaths

/-
  When the directories of tuples are entries of the root.

  Values hold no separator, but the prefix and the tokens
  may. If none of them does, every directory is an entry of
  the output root, named like the tuple, and once the root
  is there only this entry can keep it from being created.
  If one of them does, no directory is such an entry.

  Main declarations:
    * `Sweep.HasPlainNames`
    * `Sweep.IsRootEntry`
    * `IsEntryFault`
    * `Sweep.StaysInRoot`
    * `Sweep.IsValid.root_entries`
-/

namespace LatencySweep

------------------------------------------------------------
-- Separators in Names
------------------------------------------------------------

/- Labels are free of separators if the tokens are. -/
theorem separator_notMem_labelsText_iff
    {axes : List Axis}
    {bindings : List Binding}
    (hValues :
      ∀ axis ∈ axes, ∀ value ∈ axis.values,
        value.isInvalid = false)
    (hBindings : List.Forall₂ Binding.IsOf axes bindings) :
    '/' ∉ labelsText bindings ↔
      ∀ axis ∈ axes, '/' ∉ axis.token.toList := by
  induction hBindings with
  | nil => simp [labelsText]
  | @cons axis b axes bindings hFirst _ ih =>
      rw [List.forall_mem_cons] at hValues ⊢
      have hValue : '/' ∉ b.value.toText.toList :=
        AxisValue.separator_notMem
          (hValues.1 b.value hFirst.2)
      rw [← ih hValues.2, ← hFirst.1]
      simp [labelsText, Binding.labelText, hValue]

namespace Sweep

variable {sweep : Sweep} {tuple : Tuple}

/- The prefix and the tokens hold no separator. -/
structure HasPlainNames (sweep : Sweep) : Prop where
  front : '/' ∉ sweep.dirPrefix.toList
  tokens : ∀ axis ∈ sweep.axes, '/' ∉ axis.token.toList

namespace IsValid

variable (hValid : sweep.IsValid)
variable (hTuple : tuple ∈ sweep.grid.tuples)
include hValid hTuple

/- Nothing else brings separators into directory names. -/
theorem hasPlainNames_iff :
    sweep.HasPlainNames ↔
      '/' ∉ (sweep.directoryName tuple).toList := by
  have hLabels :=
    separator_notMem_labelsText_iff hValid.values_valid
      (Grid.bindings_of_mem hTuple)
  unfold directoryName
  rw [Tuple.toList_directoryName, List.mem_append, not_or,
    hLabels]
  exact
    ⟨fun hPlain => ⟨hPlain.front, hPlain.tokens⟩,
      fun hName => ⟨hName.1, hName.2⟩⟩

/- Directory names have a dash. -/
theorem dash_mem_directoryName :
    '-' ∈ (sweep.directoryName tuple).toList := by
  unfold directoryName
  rw [Tuple.toList_directoryName]
  apply List.mem_append_right
  cases hBindings : tuple.bindings with
  | nil => exact absurd hBindings (hValid.bindings_ne_nil hTuple)
  | cons b bindings => simp [labelsText, Binding.labelText]

end IsValid

------------------------------------------------------------
-- Entries of the Root
------------------------------------------------------------

/- The directory of the tuple leads on from the output root
   by one component, the directory name. -/
def IsRootEntry (sweep : Sweep) (tuple : Tuple) : Prop :=
  (sweep.outputDir tuple).components =
    sweep.outputRoot.components ++
      [.name (sweep.directoryName tuple)]

/- The directory of the tuple is an entry of the root just
   if no separator gets into its name. -/
theorem IsValid.isRootEntry_iff
    (hValid : sweep.IsValid)
    (hTuple : tuple ∈ sweep.grid.tuples) :
    sweep.IsRootEntry tuple ↔ sweep.HasPlainNames := by
  rw [hValid.hasPlainNames_iff hTuple]
  constructor
  · intro hEntry
    have hSteps := Path.steps_eq_of_components hEntry
    have hStep :
        (sweep.directoryName tuple).toList ∈
          (sweep.outputDir tuple).steps := by
      rw [hSteps]
      exact List.mem_append_right _ List.mem_cons_self
    exact
      Path.notMem_of_mem_piecesOf (List.mem_filter.mp hStep).1
  · intro hName
    exact
      Path.components_join_name sweep.outputRoot hName
        (Path.IsChild.isNameless_of_dash
          (hValid.dash_mem_directoryName hTuple))

/- Then it is a child of the root. -/
theorem IsValid.isChild
    (hValid : sweep.IsValid)
    (hTuple : tuple ∈ sweep.grid.tuples)
    (hEntry : sweep.IsRootEntry tuple) :
    sweep.outputRoot.IsChild (sweep.directoryName tuple)
      (sweep.outputDir tuple) where
  components := hEntry
  dashed := hValid.isDashed_outputDir hTuple

theorem IsValid.outputDir_ne_empty
    (hValid : sweep.IsValid)
    (hTuple : tuple ∈ sweep.grid.tuples) :
    (sweep.outputDir tuple).text ≠ "" := by
  intro hText
  have hDashed := hValid.isDashed_outputDir hTuple
  rw [hText] at hDashed
  exact absurd (hDashed [] rfl) List.not_mem_nil

end Sweep

------------------------------------------------------------
-- Creating an Entry
------------------------------------------------------------

/-
  Why an entry of a directory that is there cannot be
  created: there is something already, the name or the whole
  path is too long, or there is a NUL in the name.
-/
inductive IsEntryFault
    (tree : FileTree)
    (dir : Path)
    (name : String) : OsError → Prop where
  | taken
      (hStanding : tree.standing dir ≠ none) :
      IsEntryFault tree dir name .alreadyExists
  | longName
      (hLong : FileTree.maxName < name.utf8ByteSize) :
      IsEntryFault tree dir name .nameTooLong
  | longPath
      (hLong :
        FileTree.pathLimit ≤ dir.text.utf8ByteSize) :
      IsEntryFault tree dir name .nameTooLong
  | nul
      (hNul : '\x00' ∈ name.toList) :
      IsEntryFault tree dir name .nulInPath

namespace FileTree

variable {tree : FileTree} {root : Path} {name : String}

/- There is no NUL in the path of a root that is there. -/
theorem HasRoot.nul_notMem
    (hRoot : tree.HasRoot root) :
    '\x00' ∉ root.text.toList := by
  rcases hRoot with hText | hDirectory
  · rw [hText]
    exact List.not_mem_nil
  · have hRefusal := (isDirectory_iff.mp hDirectory).1
    unfold Path.refusal? at hRefusal
    split at hRefusal
    next => cases hRefusal
    next hNul => exact hNul

/- The path of an entry is refused for the entry only. -/
theorem isEntryFault_of_refusal
    {e : OsError}
    (hText : (root / name).text ≠ "")
    (hRoot : tree.HasRoot root)
    (hRefusal : (root / name).refusal? = some e) :
    IsEntryFault tree (root / name) name e := by
  unfold Path.refusal? at hRefusal
  rw [if_neg hText] at hRefusal
  split at hRefusal
  next hNul =>
    cases hRefusal
    rcases Path.mem_join hNul with
      hFront | hSeparator | hName
    · exact absurd hFront hRoot.nul_notMem
    · exact absurd hSeparator (by decide)
    · exact .nul hName
  next =>
    split at hRefusal
    next hLong =>
      cases hRefusal
      exact .longPath hLong
    next => cases hRefusal

/- Nothing but the entry keeps it from being created. -/
theorem isEntryFault_of_createDirectory
    {e : OsError}
    (hChild : root.IsChild name (root / name))
    (hText : (root / name).text ≠ "")
    (hRoot : tree.HasRoot root)
    (hCreate :
      tree.createDirectory (root / name) = .error e) :
    IsEntryFault tree (root / name) name e := by
  have hCreation := createDirectory_child hChild hRoot
  rw [hCreate, creation.eq_def] at hCreation
  cases hRefusal : (root / name).refusal? with
  | some refused =>
      rw [hRefusal] at hCreation
      cases hCreation
      exact isEntryFault_of_refusal hText hRoot hRefusal
  | none =>
      rw [hRefusal] at hCreation
      dsimp only at hCreation
      by_cases hLong : maxName < name.utf8ByteSize
      · rw [if_pos hLong] at hCreation
        cases hCreation
        exact .longName hLong
      · rw [if_neg hLong] at hCreation
        cases hStanding : tree.standing (root / name) with
        | none =>
            rw [hStanding] at hCreation
            cases hCreation
        | some standing =>
            rw [hStanding] at hCreation
            cases hCreation
            exact .taken (by rw [hStanding]; exact nofun)

end FileTree

------------------------------------------------------------
-- Staying in the Root
------------------------------------------------------------

namespace Sweep

variable {sweep : Sweep}

/-
  The directory of the tuple is an entry of the root. Once
  the root is there, its creation fails for this entry only.
  The simulator is told this directory, and a relative log
  file leads on from it.
-/
structure StaysInRoot
    (sweep : Sweep)
    (tuple : Tuple) : Prop where
  entry : sweep.IsRootEntry tuple
  creation :
    ∀ tree next e,
      FileTree.createDirectories tree sweep.outputRoot =
          (.ok (), next) →
        next.createDirectory (sweep.outputDir tuple) =
            .error e →
          IsEntryFault next (sweep.outputDir tuple)
            (sweep.directoryName tuple) e
  workDir :
    (sweep.simulatorInvocation tuple
        (sweep.outputDir tuple)).args.getLast? =
      some ("--cwd=" ++ (sweep.outputDir tuple).text)
  log :
    Path.isAbsolute ⟨sweep.simulator.logFile⟩ = false →
      (sweep.simulatorInvocation tuple
          (sweep.outputDir tuple)).logPath.components =
        sweep.outputRoot.components ++
          .name (sweep.directoryName tuple) ::
            (Path.stepsOf
              sweep.simulator.logFile.toList).map
                Path.componentOf

theorem IsValid.staysInRoot
    (hValid : sweep.IsValid)
    {tuple : Tuple}
    (hTuple : tuple ∈ sweep.grid.tuples)
    (hEntry : sweep.IsRootEntry tuple) :
    sweep.StaysInRoot tuple where
  entry := hEntry
  creation := by
    intro tree next e hRoot hCreate
    exact
      FileTree.isEntryFault_of_createDirectory
        (hValid.isChild hTuple hEntry)
        (hValid.outputDir_ne_empty hTuple)
        (FileTree.isDirectory_of_createDirectories hRoot)
        hCreate
  workDir := sweep.getLast?_args tuple _
  log := by
    intro hLog
    have hJoined :=
      Path.components_join (hValid.outputDir_ne_empty hTuple)
        hLog
    rw [hEntry, List.append_assoc] at hJoined
    exact hJoined

/-
  Every directory is an entry of the root if the prefix and
  the tokens hold no separator, and none is otherwise.
-/
theorem IsValid.root_entries
    (hValid : sweep.IsValid) :
    (sweep.HasPlainNames →
      ∀ tuple ∈ sweep.grid.tuples,
        sweep.StaysInRoot tuple) ∧
      ∀ tuple ∈ sweep.grid.tuples,
        sweep.IsRootEntry tuple ↔ sweep.HasPlainNames := by
  constructor
  · intro hPlain tuple hTuple
    apply hValid.staysInRoot hTuple
    exact (hValid.isRootEntry_iff hTuple).mpr hPlain
  · intro tuple hTuple
    exact hValid.isRootEntry_iff hTuple

/- A sweep whose names look like steps that lead elsewhere. -/
def dotted : Sweep :=
  { name := "dotted"
    axes :=
      [ { name := "a"
          flag := "a"
          token := ".."
          values := [.integer (-1), .text "."] },
        { name := "b"
          flag := "b"
          token := ""
          values := [.bool true, .text ".."] } ]
    concurrency := 1
    simulator :=
      { runner := "sim"
        scenario := "s"
        logFile := "logs/./out.txt" }
    outputRoot := ⟨"./runs//"⟩
    dirPrefix := ".." }

theorem root_entries_dotted :
    dotted.IsValid ∧ dotted.HasPlainNames ∧
      ∀ tuple ∈ dotted.grid.tuples,
        dotted.StaysInRoot tuple := by
  have hValid : dotted.IsValid := by decide +kernel
  have hPlain : dotted.HasPlainNames :=
    { front := by decide, tokens := by decide }
  exact ⟨hValid, hPlain, hValid.root_entries.1 hPlain⟩

/- A sweep whose prefix leads out of the output root. -/
def stray : Sweep :=
  { name := "stray"
    axes :=
      [ { name := "a"
          flag := "a"
          token := "t"
          values := [.integer 1] } ]
    concurrency := 1
    simulator := { runner := "sim", scenario := "s" }
    outputRoot := ⟨"runs"⟩
    dirPrefix := "../out" }

/- The sweep is accepted, although the directory of its tuple
   is created next to the output root. -/
theorem stray_leaves_root :
    stray.IsValid ∧
      ∃ tuple ∈ stray.grid.tuples,
        ¬ stray.IsRootEntry tuple ∧
          (stray.outputDir tuple).components =
            [.name "runs", .up, .name "out_t-1"] ∧
          ((FileTree.empty.createDirectories
                stray.outputRoot).2.createDirectory
              (stray.outputDir tuple)).map
            (fun tree => tree.find? ["work", "out_t-1"]) =
              .ok (some .directory) := by
  have hValid : stray.IsValid := by decide +kernel
  let tuple : Tuple :=
    { index := 0
      bindings := [⟨"a", "t", .integer 1⟩] }
  have hTuple : tuple ∈ stray.grid.tuples := by
    decide +kernel
  have hPath :
      (stray.outputDir tuple).components =
        [.name "runs", .up, .name "out_t-1"] := by
    decide +kernel
  refine ⟨hValid, tuple, hTuple, ?_, hPath, ?_⟩
  · rw [hValid.isRootEntry_iff hTuple]
    exact fun hPlain => hPlain.front (by decide)
  · decide +kernel

end Sweep

end LatencySweep
