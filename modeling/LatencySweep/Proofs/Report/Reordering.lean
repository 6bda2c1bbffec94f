import LatencySweep.Proofs.Report.Meaning
import LatencySweep.Proofs.Text.Lines

/-
  The order of a trace does not matter.

  Two traces with the same data lines in any order, and with
  any comments, blank lines and line endings, are reported
  on in the same way: the same result or failure, the same
  events, and the same bytes in every file but the trace.

  Main declarations:
    * `Schema.HoldsLines`
    * `World.Alike.plotTrace`
    * `SameReport`
    * `sameReport_of_perm`
-/

namespace LatencySweep

variable {σ : Type} {w other : World σ}
variable {input : Path} {schema : Schema}
variable {options : PlotOptions}

------------------------------------------------------------
-- Traces as Lines
------------------------------------------------------------

/- The file spells the lines, and each of them says
   something. -/
structure Schema.HoldsLines
    (schema : Schema)
    (tree : FileTree)
    (input : Path)
    (lines : List Bytes) : Prop where
  file :
    ∃ content,
      tree.read input = .ok content ∧
        Bytes.Spells lines content
  accepts : ∀ line ∈ lines, schema.Accepts line

/- Only the data lines tell what is parsed. -/
theorem Schema.HoldsLines.parse_eq
    {tree : FileTree}
    {lines : List Bytes}
    (hLines : schema.HoldsLines tree input lines) :
    schema.parse input tree =
      .ok ((lines.filter schema.isData).filterMap
        schema.recordOf?) := by
  rcases hLines.file with ⟨content, hRead, hSpells⟩
  unfold parse readRecords
  rw [hRead]
  dsimp only
  rw [Bytes.lines_of_spells hSpells]
  exact readLines_of_accepts hLines.accepts

------------------------------------------------------------
-- Worlds That Are Alike
------------------------------------------------------------

theorem World.Alike.told
    {place : Location}
    (hAlike : World.Alike place w other)
    (events : List Event) :
    World.Alike place (w.told events) (other.told events) :=
  { tree := hAlike.tree
    programs := hAlike.programs
    events := congrArg (· ++ events) hAlike.events }

section Reports

variable [ChartLibrary]

/- In worlds that are alike, traces with the same data lines
   have the same outcome. -/
theorem World.Alike.plotTrace
    {place : Location}
    {lines others : List Bytes}
    (hAlike : World.Alike place w other)
    (hLines : schema.HoldsLines w.tree input lines)
    (hOthers : schema.HoldsLines other.tree input others)
    (hPerm :
      (lines.filter schema.isData).Perm
        (others.filter schema.isData))
    (options : PlotOptions) :
    SameOutcome place (plotTrace input schema options w)
      (plotTrace input schema options other) := by
  have hRecords := hPerm.filterMap schema.recordOf?
  unfold LatencySweep.plotTrace
  rw [surveyTrace_eq, surveyTrace_eq, hLines.parse_eq,
    hOthers.parse_eq, surveyResult_eq_of_perm hRecords,
    surveyEvents_eq_of_perm hRecords]
  generalize (others.filter schema.isData).filterMap
    schema.recordOf? = records
  have hTold :=
    hAlike.told (surveyEvents input options (.ok records))
  cases surveyResult options (.ok records) with
  | error e => exact { result := rfl, world := hTold }
  | ok cdfs =>
      have hWrite :=
        hTold.writeReport (.ofInput input) options cdfs
      rcases hWrite.exists_eq with
        ⟨result, final, final', hFirst, hSecond, hFinal⟩
      dsimp only
      rw [hFirst, hSecond]
      cases result with
      | error e => exact { result := rfl, world := hFinal }
      | ok done => exact { result := rfl, world := hFinal }

------------------------------------------------------------
-- Reports That Are the Same
------------------------------------------------------------

/- A report removes no directory, however it ends. -/
theorem keepsDirectories_plotTrace
    (input : Path)
    (schema : Schema)
    (options : PlotOptions)
    (w : World σ) :
    w.tree.KeepsDirectories
      (plotTrace input schema options w).2.tree := by
  unfold plotTrace
  rw [surveyTrace_eq]
  cases surveyResult options (schema.parse input w.tree) with
  | error e => exact FileTree.keepsDirectories_refl _
  | ok cdfs =>
      have hKeeps :=
        keepsDirectories_writeReport (.ofInput input) options
          cdfs
          (w.told (surveyEvents input options
            (schema.parse input w.tree)))
      dsimp only
      split
      next hWrite =>
        rw [hWrite] at hKeeps
        exact hKeeps
      next hWrite =>
        rw [hWrite] at hKeeps
        exact hKeeps

/- The same result, the same messages and printed lines, the
   same outputs, and nothing else that differs but the
   trace. -/
structure SameReport
    {α : Type}
    (input : Path)
    (workDir : Location)
    (first second : α × World σ) : Prop where
  result : second.1 = first.1
  printed : second.2.printedLines = first.2.printedLines
  events : second.2.events = first.2.events
  outputs :
    ∀ output : ReportPaths.Output,
      second.2.tree.read
          ((ReportPaths.ofInput input).output output) =
        first.2.tree.read
          ((ReportPaths.ofInput input).output output)
  elsewhere :
    ∀ place,
      place ≠ input.place workDir →
        second.2.tree.find? place = first.2.tree.find? place

/-
  Traces with the same data lines, in any order and with any
  comments, blank lines and line endings, are reported on in
  the same way.
-/
theorem sameReport_of_perm
    {lines others : List Bytes}
    (hAlike :
      World.Alike (input.place w.tree.workDir) w other)
    (hLines : schema.HoldsLines w.tree input lines)
    (hOthers : schema.HoldsLines other.tree input others)
    (hPerm :
      (lines.filter schema.isData).Perm
        (others.filter schema.isData))
    (options : PlotOptions) :
    SameReport input w.tree.workDir
      (plotTrace input schema options w)
      (plotTrace input schema options other) := by
  have hSame := hAlike.plotTrace hLines hOthers hPerm options
  have hKeeps :=
    keepsDirectories_plotTrace input schema options w
  refine
    { result := hSame.result
      printed := ?_
      events := hSame.world.events
      outputs := ?_
      elsewhere := hSame.world.tree.elsewhere }
  · unfold World.printedLines
    rw [hSame.world.events]
  · intro output
    apply hSame.world.tree.read_eq
    rw [hKeeps.workDir]
    exact
      ReportPaths.place_output_ne_input input output
        w.tree.workDir

end Reports

------------------------------------------------------------
-- An Example
------------------------------------------------------------

attribute [local instance] ChartLibrary.plain

/- The calls of the mixed trace in another order, with other
   comments and line endings. -/
def mixedTraceAgain : FileTree :=
  traceTree
    (String.join
      [ "0 0 0 1 -0\r\n",
        "0 0 0 1 0.5\n",
        "# another comment\n",
        "0 0 0 0 1\r\n",
        " \n",
        "# yet another\n",
        "0 0 0 2 0.25\n" ])

theorem agreesUpTo_traceTree (first second : String) :
    FileTree.AgreesUpTo ["work", "t.dat"] (traceTree first)
      (traceTree second) := by
  refine
    { workDir := rfl
      elsewhere := ?_
      file := ⟨_, FileTree.find?_put_self _ _ (by simp)⟩
      otherFile := ⟨_, FileTree.find?_put_self _ _ (by simp)⟩ }
  intro spot hSpot
  exact
    (FileTree.find?_put_of_ne _ _ hSpot).trans
      (FileTree.find?_put_of_ne _ _ hSpot).symm

/- A trace that can be read holds its lines. -/
theorem holdsLines_traceTree
    {text : String}
    (hRead :
      (traceTree text).read ⟨"t.dat"⟩ =
        .ok (Bytes.ofText text))
    (hRecords :
      (schema.readRecords "t.dat" (Bytes.ofText text)).isOk =
        true) :
    schema.HoldsLines (traceTree text) ⟨"t.dat"⟩
      (Bytes.ofText text).lines := by
  refine
    { file := ⟨_, hRead, Bytes.spells_lines _⟩
      accepts := ?_ }
  cases hFound :
      schema.readRecords "t.dat" (Bytes.ofText text) with
  | error e =>
      rw [hFound] at hRecords
      cases hRecords
  | ok records => exact Schema.accepts_of_readLines hFound

theorem sameReport_of_perm_mixed :
    SameReport ⟨"t.dat"⟩ ["work"]
      (plotTrace ⟨"t.dat"⟩ {} { allowEmpty := true }
        (World.start mixedTrace ()))
      (plotTrace ⟨"t.dat"⟩ {} { allowEmpty := true }
        (World.start mixedTraceAgain ())) := by
  have hAlike :
      World.Alike (Path.place ["work"] ⟨"t.dat"⟩)
        (World.start mixedTrace ())
        (World.start mixedTraceAgain ()) :=
    { tree := agreesUpTo_traceTree _ _
      programs := rfl
      events := rfl }
  have hLines :
      ({} : Schema).HoldsLines
        (World.start mixedTrace ()).tree ⟨"t.dat"⟩ _ :=
    holdsLines_traceTree (by decide +kernel)
      (by decide +kernel)
  have hOthers :
      ({} : Schema).HoldsLines
        (World.start mixedTraceAgain ()).tree ⟨"t.dat"⟩ _ :=
    holdsLines_traceTree (by decide +kernel)
      (by decide +kernel)
  apply sameReport_of_perm hAlike hLines hOthers
  decide +kernel

end LatencySweep
