import LatencySweep.Proofs.Cdf.File
import LatencySweep.Proofs.FileTree.Agree
import LatencySweep.Proofs.Report.Paths
import LatencySweep.Report.Plot
import Mathlib.Data.List.Nodup

/-
  What a report writes.

  The page is written first, then one file for each cohort.
  All of them have different places, so they are all there
  in the end, and nothing else changes. In worlds that
  differ in the trace only, the same things happen.

  Main declarations:
    * `ReportPaths.files`
    * `Wrote`
    * `wrote_writeReport`
    * `reported_of_writeReport`
    * `Reported.read_raw`
    * `World.Alike`
    * `World.Alike.writeReport`
-/

namespace LatencySweep

variable {σ : Type} {w other final : World σ}

------------------------------------------------------------
-- Files
------------------------------------------------------------

namespace ReportPaths

/- The outputs of a report. -/
def outputs (cohorts : List Cohort) : List Output :=
  .page :: cohorts.map .raw

/- What is kept of the cohorts. -/
def rawFiles
    (paths : ReportPaths)
    (cdfs : List (Cohort × Cdf)) : List (Path × Bytes) :=
  cdfs.map fun curve =>
    (paths.raw curve.1, Bytes.ofText curve.2.toTable)

variable [ChartLibrary]

/- What a report writes, in order. -/
def files
    (paths : ReportPaths)
    (options : PlotOptions)
    (cdfs : List (Cohort × Cdf)) : List (Path × Bytes) :=
  let figure : Figure := { curves := cdfs, xMax := options.xMax }
  (paths.html, Bytes.ofText figure.toPage) ::
    paths.rawFiles cdfs

/- The files are the outputs. -/
theorem map_fst_files
    (paths : ReportPaths)
    (options : PlotOptions)
    (cdfs : List (Cohort × Cdf)) :
    (paths.files options cdfs).map Prod.fst =
      (outputs (cdfs.map Prod.fst)).map paths.output := by
  unfold files rawFiles outputs
  dsimp only
  rw [List.map_cons, List.map_cons, List.map_map,
    List.map_map, List.map_map]
  rfl

theorem exists_output_of_mem_files
    {paths : ReportPaths}
    {options : PlotOptions}
    {cdfs : List (Cohort × Cdf)}
    {file : Path × Bytes}
    (hFile : file ∈ paths.files options cdfs) :
    ∃ output, file.1 = paths.output output := by
  have hIn := List.mem_map_of_mem (f := Prod.fst) hFile
  rw [map_fst_files] at hIn
  rcases List.mem_map.mp hIn with ⟨output, _, hSame⟩
  exact ⟨output, hSame.symm⟩

/- The places of the files are different. -/
theorem nodup_places
    {input : Path}
    {options : PlotOptions}
    {cdfs : List (Cohort × Cdf)}
    (hCohorts : (cdfs.map Prod.fst).Nodup)
    (workDir : Location) :
    (((ofInput input).files options cdfs).map fun file =>
      file.1.place workDir).Nodup := by
  have hOutputs :
      (outputs (cdfs.map Prod.fst)).Nodup := by
    refine List.nodup_cons.mpr ⟨?_, ?_⟩
    · intro hPage
      rcases List.mem_map.mp hPage with ⟨cohort, -, hSame⟩
      cases hSame
    · refine List.Nodup.map ?_ hCohorts
      exact fun first second hSame => Output.raw.inj hSame
  have hPlaces :
      ((outputs (cdfs.map Prod.fst)).map fun output =>
        ((ofInput input).output output).place workDir).Nodup :=
    List.Nodup.map
      (fun first second hSame => place_output_inj hSame)
      hOutputs
  change
    (((ofInput input).files options cdfs).map
      ((·.place workDir) ∘ Prod.fst)).Nodup
  rw [← List.map_map, map_fst_files, List.map_map]
  exact hPlaces

end ReportPaths

------------------------------------------------------------
-- Steps of a Report
------------------------------------------------------------

/- The files were written, and nothing was printed or
   called. -/
structure Reported
    (files : List (Path × Bytes))
    (w final : World σ) : Prop where
  tree : w.tree.WritesAll files final.tree
  programs : final.programs = w.programs
  printed : final.printedLines = w.printedLines

theorem Reported.append
    {middle : World σ}
    {files others : List (Path × Bytes)}
    (hFirst : Reported files w middle)
    (hSecond : Reported others middle final) :
    Reported (files ++ others) w final :=
  { tree := hFirst.tree.append hSecond.tree
    programs := hSecond.programs.trans hFirst.programs
    printed := hSecond.printed.trans hFirst.printed }

/- No file was written. -/
theorem reported_nil (w : World σ) : Reported [] w w :=
  { tree := FileTree.WritesAll.nil _
    programs := rfl
    printed := rfl }

/- One file was written. -/
theorem reported_singleton
    {path : Path}
    {content : Bytes}
    {next : FileTree}
    (hWrite : w.tree.write path content = .ok next) :
    Reported [(path, content)] w { w with tree := next } :=
  { tree :=
      FileTree.WritesAll.cons (FileTree.writes_of_write hWrite)
        (FileTree.WritesAll.nil _)
    programs := rfl
    printed := rfl }

/- A message may be logged. -/
theorem reported_log
    (w : World σ)
    (level : Level)
    (message : String) :
    Reported [] w (w.log level message) := by
  refine
    { tree := FileTree.WritesAll.nil _
      programs := rfl
      printed := ?_ }
  unfold World.printedLines World.log World.record
  rw [List.filterMap_append]
  exact List.append_nil _

/- A file cannot be written. -/
inductive PlotError.IsUnwritten : PlotError → Prop where
  | figure (path : Path) (cause : OsError) :
      IsUnwritten (.figure path cause)
  | raw (cause : OsError) :
      IsUnwritten (.cdf (.table (.file cause)))

/- All files were written, or those before one that cannot
   be written. -/
inductive Wrote
    (files : List (Path × Bytes))
    (w : World σ) :
    Except PlotError Unit × World σ → Prop where
  | all {final : World σ} :
      Reported files w final →
        Wrote files w (.ok (), final)
  | some
      {final : World σ}
      {front back : List (Path × Bytes)}
      {file : Path × Bytes}
      {e : PlotError} :
      files = front ++ file :: back →
        Reported front w final →
          e.IsUnwritten →
            Wrote files w (.error e, final)

/- The files are written behind others. -/
theorem Wrote.behind
    {middle : World σ}
    {files others : List (Path × Bytes)}
    {result : Except PlotError Unit × World σ}
    (hFirst : Reported files w middle)
    (hRest : Wrote others middle result) :
    Wrote (files ++ others) w result := by
  cases hRest with
  | all hAll => exact Wrote.all (hFirst.append hAll)
  | some hFiles hFront hReason =>
      rw [hFiles, ← List.append_assoc]
      exact Wrote.some rfl (hFirst.append hFront) hReason

/- Files behind one that cannot be written do not matter. -/
theorem Wrote.failed
    {files : List (Path × Bytes)}
    {e : PlotError}
    (hFailed : Wrote files w (.error e, final))
    (others : List (Path × Bytes)) :
    Wrote (files ++ others) w (.error e, final) := by
  cases hFailed with
  | some hFiles hFront hReason =>
      rw [hFiles, List.append_assoc]
      exact Wrote.some rfl hFront hReason

/- The first file cannot be written. -/
theorem wrote_nothing
    (file : Path × Bytes)
    (files : List (Path × Bytes))
    (w : World σ)
    {e : PlotError}
    (hReason : e.IsUnwritten) :
    Wrote (file :: files) w (.error e, w) :=
  Wrote.some (List.nil_append _).symm (reported_nil w) hReason

/- The files of the cohorts are written one after the
   other. -/
theorem wrote_writeRaw
    (paths : ReportPaths)
    (cdfs : List (Cohort × Cdf))
    (w : World σ) :
    Wrote (paths.rawFiles cdfs) w
      ((writeRaw paths cdfs w).1.mapError .cdf,
        (writeRaw paths cdfs w).2) := by
  induction cdfs generalizing w with
  | nil => exact Wrote.all (reported_nil w)
  | cons curve cdfs ih =>
      unfold writeRaw Cdf.save
      cases hWrite : w.tree.write (paths.raw curve.1)
          (Bytes.ofText curve.2.toTable) with
      | error cause =>
          exact
            wrote_nothing _ _ w
              (PlotError.IsUnwritten.raw cause)
      | ok tree =>
          exact
            Wrote.behind (reported_singleton hWrite)
              (ih { w with tree := tree })

theorem reported_skipPdf
    (paths : ReportPaths)
    (options : PlotOptions)
    (w : World σ) :
    Reported [] w (skipPdf paths options w) := by
  unfold skipPdf
  split_ifs
  · exact reported_log _ _ _
  · exact reported_nil w

section Reports

variable [ChartLibrary]

/- The page is written. -/
theorem wrote_writePage
    (figure : Figure)
    (path : Path)
    (w : World σ) :
    Wrote [(path, Bytes.ofText figure.toPage)] w
      (figure.writePage path w) := by
  unfold Figure.writePage
  split
  next cause _ =>
    exact
      wrote_nothing _ _ w
        (PlotError.IsUnwritten.figure path cause)
  next tree hWrite =>
    exact
      Wrote.all
        ((reported_singleton hWrite).append
          (reported_log _ _ _))

/- A report writes its files in order. -/
theorem wrote_writeReport
    (paths : ReportPaths)
    (options : PlotOptions)
    (cdfs : List (Cohort × Cdf))
    (w : World σ) :
    Wrote (paths.files options cdfs) w
      (writeReport paths options cdfs w) := by
  have hPage :=
    wrote_writePage { curves := cdfs, xMax := options.xMax }
      paths.html w
  unfold writeReport
  dsimp only
  split
  next e page hFirst =>
    rw [hFirst] at hPage
    exact hPage.failed _
  next page hFirst =>
    rw [hFirst] at hPage
    cases hPage with
    | all hDone =>
        have hRaw :=
          wrote_writeRaw paths cdfs (skipPdf paths options page)
        have hBoth :=
          Wrote.behind
            (hDone.append (reported_skipPdf paths options page))
            hRaw
        split
        next hLast =>
          rw [hLast] at hBoth
          exact hBoth
        next hLast =>
          rw [hLast] at hBoth
          exact hBoth

------------------------------------------------------------
-- Reports That Succeed
------------------------------------------------------------

/- A report that succeeds writes the page and the cohorts. -/
theorem reported_of_writeReport
    {paths : ReportPaths}
    {options : PlotOptions}
    {cdfs : List (Cohort × Cdf)}
    (hWrite :
      writeReport paths options cdfs w = (.ok (), final)) :
    Reported (paths.files options cdfs) w final := by
  have hWrote := wrote_writeReport paths options cdfs w
  rw [hWrite] at hWrote
  cases hWrote with
  | all hAll => exact hAll

namespace Reported

variable {input : Path} {options : PlotOptions}
variable {cdfs : List (Cohort × Cdf)}

/- The page is there in the end. -/
theorem read_html
    (hReported :
      Reported ((ReportPaths.ofInput input).files options cdfs)
        w final)
    (hCohorts : (cdfs.map Prod.fst).Nodup) :
    final.tree.read (ReportPaths.ofInput input).html =
      .ok (Bytes.ofText
        ({ curves := cdfs, xMax := options.xMax } :
          Figure).toPage) := by
  have hRead :=
    hReported.tree.read
      (ReportPaths.nodup_places hCohorts w.tree.workDir)
  exact hRead (_, _) List.mem_cons_self

/- The file of each cohort is there in the end. -/
theorem read_raw
    (hReported :
      Reported ((ReportPaths.ofInput input).files options cdfs)
        w final)
    (hCohorts : (cdfs.map Prod.fst).Nodup)
    {curve : Cohort × Cdf}
    (hMem : curve ∈ cdfs) :
    final.tree.read
        ((ReportPaths.ofInput input).raw curve.1) =
      .ok (Bytes.ofText curve.2.toTable) := by
  have hRead :=
    hReported.tree.read
      (ReportPaths.nodup_places hCohorts w.tree.workDir)
  apply hRead (_, _)
  apply List.mem_cons_of_mem
  exact List.mem_map.mpr ⟨curve, hMem, rfl⟩

/- Nothing but the outputs changes. -/
theorem find?_of_ne
    (hReported :
      Reported ((ReportPaths.ofInput input).files options cdfs)
        w final)
    {place : Location}
    (hOther :
      ∀ output ∈ ReportPaths.outputs (cdfs.map Prod.fst),
        place ≠
          ((ReportPaths.ofInput input).output output).place
            w.tree.workDir) :
    final.tree.find? place = w.tree.find? place := by
  apply hReported.tree.find?_of_ne
  intro file hFile
  have hIn := List.mem_map_of_mem (f := Prod.fst) hFile
  rw [ReportPaths.map_fst_files] at hIn
  rcases List.mem_map.mp hIn with ⟨output, hOutput, hSame⟩
  rw [← hSame]
  exact hOther output hOutput

omit [ChartLibrary] in
/- The trace is still there when outputs were written. -/
theorem read_input
    {files : List (Path × Bytes)}
    (hFiles :
      ∀ file ∈ files,
        ∃ output,
          file.1 = (ReportPaths.ofInput input).output output)
    (hReported : Reported files w final)
    {content : Bytes}
    (hRead : w.tree.read input = .ok content) :
    final.tree.read input = .ok content := by
  apply hReported.tree.keepsDirectories.read _ hRead
  apply hReported.tree.find?_of_ne
  intro file hFile hSame
  rcases hFiles file hFile with ⟨output, hOutput⟩
  rw [hOutput] at hSame
  exact
    ReportPaths.place_output_ne_input input output _ hSame.symm

end Reported

------------------------------------------------------------
-- Reports That Fail
------------------------------------------------------------

/- A report that fails could not write a file. -/
theorem isUnwritten_of_writeReport
    {paths : ReportPaths}
    {options : PlotOptions}
    {cdfs : List (Cohort × Cdf)}
    {e : PlotError}
    (hWrite :
      writeReport paths options cdfs w = (.error e, final)) :
    e.IsUnwritten := by
  have hWrote := wrote_writeReport paths options cdfs w
  rw [hWrite] at hWrote
  cases hWrote with
  | some _ _ hReason => exact hReason

/- The trace is still there, whether a report succeeds or
   fails. -/
theorem read_input_writeReport
    {input : Path}
    (options : PlotOptions)
    (cdfs : List (Cohort × Cdf))
    {content : Bytes}
    (hRead : w.tree.read input = .ok content) :
    (writeReport (.ofInput input) options cdfs w).2.tree.read
        input =
      .ok content := by
  have hWrote :=
    wrote_writeReport (.ofInput input) options cdfs w
  have hOutput
      {file : Path × Bytes}
      (hFile :
        file ∈ (ReportPaths.ofInput input).files options cdfs) :
      ∃ output,
        file.1 = (ReportPaths.ofInput input).output output :=
    ReportPaths.exists_output_of_mem_files hFile
  cases hResult :
      writeReport (.ofInput input) options cdfs w with
  | mk result final =>
      rw [hResult] at hWrote
      cases hWrote with
      | all hAll =>
          exact hAll.read_input (fun _ => hOutput) hRead
      | some hFiles hFront _ =>
          apply hFront.read_input _ hRead
          intro file hFile
          apply hOutput
          rw [hFiles]
          exact List.mem_append_left _ hFile

/- No directory is removed, whether a report succeeds or
   fails. -/
theorem keepsDirectories_writeReport
    (paths : ReportPaths)
    (options : PlotOptions)
    (cdfs : List (Cohort × Cdf))
    (w : World σ) :
    w.tree.KeepsDirectories
      (writeReport paths options cdfs w).2.tree := by
  have hWrote := wrote_writeReport paths options cdfs w
  cases hResult : writeReport paths options cdfs w with
  | mk result final =>
      rw [hResult] at hWrote
      cases hWrote with
      | all hAll => exact hAll.tree.keepsDirectories
      | some _ hFront _ => exact hFront.tree.keepsDirectories

end Reports

------------------------------------------------------------
-- Worlds That Are Alike
------------------------------------------------------------

/- The worlds differ at most in the content of one file. -/
structure World.Alike
    (place : Location)
    (w other : World σ) : Prop where
  tree : FileTree.AgreesUpTo place w.tree other.tree
  programs : other.programs = w.programs
  events : other.events = w.events

/- The same result in worlds that are alike. -/
structure SameOutcome
    {α : Type}
    (place : Location)
    (first second : α × World σ) : Prop where
  result : second.1 = first.1
  world : World.Alike place first.2 second.2

variable {place : Location}

theorem SameOutcome.exists_eq
    {α : Type}
    {first second : α × World σ}
    (hSame : SameOutcome place first second) :
    ∃ result next next',
      first = (result, next) ∧
        second = (result, next') ∧
          World.Alike place next next' :=
  ⟨first.1, first.2, second.2, rfl,
    Prod.ext hSame.result rfl, hSame.world⟩

namespace World.Alike

theorem record
    (hAlike : World.Alike place w other)
    (event : Event) :
    World.Alike place (w.record event) (other.record event) :=
  { tree := hAlike.tree
    programs := hAlike.programs
    events := congrArg (· ++ [event]) hAlike.events }

theorem withTree
    (hAlike : World.Alike place w other)
    {next next' : FileTree}
    (hTree : FileTree.AgreesUpTo place next next') :
    World.Alike place { w with tree := next }
      { other with tree := next' } :=
  { hAlike with tree := hTree }

theorem writeRaw
    (hAlike : World.Alike place w other)
    (paths : ReportPaths)
    (cdfs : List (Cohort × Cdf)) :
    SameOutcome place (writeRaw paths cdfs w)
      (writeRaw paths cdfs other) := by
  induction cdfs generalizing w other with
  | nil => exact { result := rfl, world := hAlike }
  | cons curve cdfs ih =>
      unfold LatencySweep.writeRaw Cdf.save
      rcases hAlike.tree.write_cases (paths.raw curve.1)
          (Bytes.ofText curve.2.toTable) with
        ⟨e, hWrite, hOther⟩ |
          ⟨next, next', hWrite, hOther, hNext⟩
      · rw [hWrite, hOther]
        exact { result := rfl, world := hAlike }
      · rw [hWrite, hOther]
        exact ih (hAlike.withTree hNext)

theorem skipPdf
    (hAlike : World.Alike place w other)
    (paths : ReportPaths)
    (options : PlotOptions) :
    World.Alike place (skipPdf paths options w)
      (skipPdf paths options other) := by
  unfold LatencySweep.skipPdf
  split_ifs
  · exact hAlike.record _
  · exact hAlike

variable [ChartLibrary]

theorem writePage
    (hAlike : World.Alike place w other)
    (figure : Figure)
    (path : Path) :
    SameOutcome place (figure.writePage path w)
      (figure.writePage path other) := by
  unfold Figure.writePage
  rcases hAlike.tree.write_cases path
      (Bytes.ofText figure.toPage) with
    ⟨e, hWrite, hOther⟩ | ⟨next, next', hWrite, hOther, hNext⟩
  · rw [hWrite, hOther]
    exact { result := rfl, world := hAlike }
  · rw [hWrite, hOther]
    exact
      { result := rfl
        world := (hAlike.withTree hNext).record _ }

theorem writeReport
    (hAlike : World.Alike place w other)
    (paths : ReportPaths)
    (options : PlotOptions)
    (cdfs : List (Cohort × Cdf)) :
    SameOutcome place (writeReport paths options cdfs w)
      (writeReport paths options cdfs other) := by
  have hPage :=
    hAlike.writePage
      { curves := cdfs, xMax := options.xMax } paths.html
  rcases hPage.exists_eq with
    ⟨result, next, next', hFirst, hSecond, hNext⟩
  unfold LatencySweep.writeReport
  dsimp only
  rw [hFirst, hSecond]
  cases result with
  | error e => exact { result := rfl, world := hNext }
  | ok done =>
      have hRaw :=
        (hNext.skipPdf paths options).writeRaw paths cdfs
      rcases hRaw.exists_eq with
        ⟨last, final, final', hLast, hLast', hFinal⟩
      dsimp only
      rw [hLast, hLast']
      cases last with
      | error e => exact { result := rfl, world := hFinal }
      | ok done => exact { result := rfl, world := hFinal }

end World.Alike

end LatencySweep
