import LatencySweep.Proofs.Path.Components
import LatencySweep.Proofs.Report.Ending
import LatencySweep.Proofs.Report.Files

/-
  The files of a report stand next to the trace, apart from
  each other and from the trace.

  What holds of their names holds of their paths, whatever
  steps the path of the trace is written with. Plotting
  therefore leaves the trace as it is.

  Main declarations:
    * `ReportPaths.all`
    * `ReportPaths.components_output`
    * `ReportPaths.SetsApart`
    * `ReportPaths.setsApart_of_fileName`
-/

namespace LatencySweep

namespace ReportPaths

variable {input : Path} {name : String}

------------------------------------------------------------
-- All Files
------------------------------------------------------------

/- Every file that belongs to a report: the page, the
   document, and what is kept of the cohorts. -/
def all (paths : ReportPaths) : List Path :=
  paths.html :: paths.pdf :: Cohort.all.map paths.raw

/- These are the outputs. -/
theorem all_eq (paths : ReportPaths) :
    paths.all = Output.all.map paths.output := by
  unfold all Output.all
  rw [List.map_cons, List.map_cons, List.map_map]
  rfl

/- A file is one component behind the directory. -/
theorem components_output
    (input : Path)
    (output : Output) :
    ((ofInput input).output output).components =
      input.parentDir.components ++
        [.name ((ofInput input).outputName output)] := by
  rcases isSingle_outputName input output with
    ⟨hSeparator, hNamed⟩
  rw [output_eq]
  exact Path.components_join_name _ hSeparator hNamed

------------------------------------------------------------
-- Separation
------------------------------------------------------------

/-
  All files of a report are different places in the
  directory of the trace, none of them is named like the
  trace, and plotting does not change what the trace says.
-/
structure SetsApart (input : Path) : Prop where
  distinct : ((ofInput input).all.map Path.components).Nodup
  parents :
    ∀ path ∈ (ofInput input).all,
      path.parentDir.components = input.parentDir.components
  names :
    ∀ path ∈ (ofInput input).all,
      path.fileName? ≠ input.fileName?
  trace :
    ∀ path ∈ (ofInput input).all,
      path.components ≠ input.components
  kept :
    ∀ [ChartLibrary] {σ : Type} (schema : Schema)
      (options : PlotOptions) (w : World σ)
      (content : Bytes),
      w.tree.read input = .ok content →
        (plotTrace input schema options w).2.tree.read input =
          .ok content

/- Plotting a trace does not change it. -/
theorem read_input_plotTrace
    [ChartLibrary]
    {σ : Type}
    (input : Path)
    (schema : Schema)
    (options : PlotOptions)
    {w : World σ}
    {content : Bytes}
    (hRead : w.tree.read input = .ok content) :
    (plotTrace input schema options w).2.tree.read input =
      .ok content := by
  have hKept
      (events : List Event)
      (cdfs : List (Cohort × Cdf)) :
      (writeReport (.ofInput input) options cdfs
            (w.told events)).2.tree.read input =
        .ok content :=
    read_input_writeReport options cdfs hRead
  rcases plotTrace_cases input schema options w with
    ⟨e, -, hPlot⟩ |
      ⟨cdfs, -, ⟨e, final, hWrite, hPlot⟩ |
        ⟨final, hWrite, hPlot⟩⟩
  · rw [hPlot]
    exact hRead
  · rw [hPlot, ← hKept _ cdfs, hWrite]
  · rw [hPlot, ← hKept _ cdfs, hWrite]

/- Every trace with a file name is set apart from its
   report, whatever the name is. -/
theorem setsApart_of_fileName
    (hName : input.fileName? = some name) :
    SetsApart input := by
  have hOutput
      {path : Path}
      (hPath : path ∈ (ofInput input).all) :
      ∃ output, path = (ofInput input).output output := by
    rw [all_eq, List.mem_map] at hPath
    rcases hPath with ⟨output, _, rfl⟩
    exact ⟨output, rfl⟩
  have hNames :
      ∀ path ∈ (ofInput input).all,
        path.fileName? ≠ input.fileName? := by
    intro path hPath
    rcases hOutput hPath with ⟨output, rfl⟩
    rcases isSingle_outputName input output with
      ⟨hSeparator, hNamed⟩
    rw [output_eq, Path.fileName?_join _ hSeparator hNamed,
      hName]
    intro hSame
    exact outputName_ne hName output (Option.some.inj hSame)
  refine
    { distinct := ?distinct
      parents := ?parents
      names := hNames
      trace := ?trace
      kept := read_input_plotTrace input }
  case distinct =>
    have hInjective :
        Function.Injective fun output =>
          ((ofInput input).output output).components := by
      intro first second hSame
      dsimp only at hSame
      rw [components_output, components_output] at hSame
      injection
        List.singleton_inj.mp
          (List.append_cancel_left hSame) with hNames
      exact outputName_inj hNames
    rw [all_eq, List.map_map]
    exact List.Nodup.map hInjective (by decide)
  case parents =>
    intro path hPath
    rcases hOutput hPath with ⟨output, rfl⟩
    rcases isSingle_outputName input output with
      ⟨hSeparator, hNamed⟩
    rw [output_eq]
    exact
      Path.components_parentDir_join input.parentDir_ne_empty
        hSeparator hNamed
  case trace =>
    intro path hPath hSame
    apply hNames path hPath
    rw [hName, Path.fileName?_eq_some_iff, hSame,
      ← Path.fileName?_eq_some_iff, hName]

/- A hidden trace that is named like a report file, with
   idle pieces around the name. -/
theorem setsApart_disguised :
    Path.fileName? ⟨".//runs/./.x.dat-cdf_onNet.txt/."⟩ =
        some ".x.dat-cdf_onNet.txt" ∧
      SetsApart ⟨".//runs/./.x.dat-cdf_onNet.txt/."⟩ := by
  have hName :
      Path.fileName? ⟨".//runs/./.x.dat-cdf_onNet.txt/."⟩ =
        some ".x.dat-cdf_onNet.txt" := by
    decide +kernel
  exact ⟨hName, setsApart_of_fileName hName⟩

end ReportPaths

end LatencySweep
