import LatencySweep.Proofs.Path.Files
import LatencySweep.Report.Paths

/-
  The files of a report do not collide.

  All of them stand next to the trace, and each has an
  ending of its own behind the stem of the trace. Every
  ending has more in front of its dot than a stem leaves
  behind, so the trace is not named like one of its own
  files, even if it is named like those of another trace.

  Main declarations:
    * `ReportPaths.Output`
    * `ReportPaths.isSingle_outputName`
    * `ReportPaths.outputName_ne`
    * `ReportPaths.place_output`
    * `ReportPaths.place_output_inj`
    * `ReportPaths.place_output_ne_input`
-/

namespace LatencySweep

namespace ReportPaths

------------------------------------------------------------
-- Outputs
------------------------------------------------------------

/- A file that belongs to a report: the page, the document,
   or what is kept of a cohort. -/
inductive Output where
  | page
  | document
  | raw (cohort : Cohort)
  deriving DecidableEq

/- The path of an output. -/
def output (paths : ReportPaths) : Output → Path
  | .page => paths.html
  | .document => paths.pdf
  | .raw cohort => paths.raw cohort

/- What stands between the stem and the last dot. -/
def Output.tag : Output → String
  | .page | .document => "-cdf"
  | .raw cohort => "-cdf_" ++ cohort.fileSuffix

/- What stands behind the last dot. -/
def Output.ending : Output → String
  | .page => "html"
  | .document => "pdf"
  | .raw _ => "txt"

/- What stands behind the stem. -/
def Output.suffix (output : Output) : String :=
  output.tag ++ "." ++ output.ending

/- The file name of an output. -/
def outputName (paths : ReportPaths) (output : Output) :
    String :=
  paths.stem ++ output.suffix

/- Every output. -/
def Output.all : List Output :=
  .page :: .document :: Cohort.all.map .raw

theorem Output.mem_all (output : Output) : output ∈ all := by
  cases output with
  | page => decide
  | document => decide
  | raw cohort =>
      apply List.mem_cons_of_mem
      apply List.mem_cons_of_mem
      exact List.mem_map_of_mem (Cohort.mem_all cohort)

theorem Output.suffix_inj
    {first second : Output}
    (hSame : first.suffix = second.suffix) :
    first = second := by
  have hAll :
      ∀ a ∈ all, ∀ b ∈ all, a.suffix = b.suffix → a = b := by
    decide
  exact
    hAll first first.mem_all second second.mem_all hSame

theorem output_eq
    (paths : ReportPaths)
    (output : Output) :
    paths.output output =
      paths.directory / paths.outputName output := by
  cases output with
  | page | document => rfl
  | raw cohort =>
      unfold output raw outputName Output.suffix Output.tag
      simp only [String.append_assoc]
      rfl

------------------------------------------------------------
-- Names
------------------------------------------------------------

variable {input : Path} {name : String}

/- The stem is a part of a file name. -/
theorem separator_notMem_stem (input : Path) :
    Path.separator ∉ (ofInput input).stem.toList := by
  unfold ofInput Path.fileStem?
  dsimp only
  cases hName : input.fileName? with
  | none => exact List.not_mem_nil
  | some name =>
      rcases Path.exists_steps_of_fileName hName with
        ⟨front, -, hSeparator, -⟩
      rw [Option.map_some, Option.getD_some,
        String.toList_ofList]
      intro hMem
      exact hSeparator (Path.mem_of_mem_stemOf hMem)

/- A name is a single one, and has a dash. -/
theorem isSingle_outputName
    (input : Path)
    (output : Output) :
    Path.separator ∉
        ((ofInput input).outputName output).toList ∧
      FileTree.isNameless
          ((ofInput input).outputName output) =
        false := by
  have hAll :
      ∀ output ∈ Output.all,
        '-' ∈ output.suffix.toList ∧
          Path.separator ∉ output.suffix.toList := by
    decide
  rcases hAll output output.mem_all with ⟨hDash, hSeparator⟩
  unfold outputName
  constructor
  · rw [String.toList_append, List.mem_append, not_or]
    exact ⟨separator_notMem_stem input, hSeparator⟩
  · apply Path.IsChild.isNameless_of_dash
    rw [String.toList_append]
    exact List.mem_append_right _ hDash

/- Different outputs have different names. -/
theorem outputName_inj
    {paths : ReportPaths}
    {first second : Output}
    (hSame :
      paths.outputName first = paths.outputName second) :
    first = second :=
  Output.suffix_inj ((String.append_right_inj _).mp hSame)

/- The trace has another name, as the stem of a name is
   longer than that of the trace. -/
theorem outputName_ne
    (hName : input.fileName? = some name)
    (output : Output) :
    (ofInput input).outputName output ≠ name := by
  have hAll :
      ∀ output ∈ Output.all,
        output.tag.toList ≠ [] ∧
          '.' ∉ output.ending.toList := by
    decide
  rcases hAll output output.mem_all with ⟨hTag, hEnding⟩
  have hStem :
      (ofInput input).stem.toList =
        Path.stemOf name.toList := by
    unfold ofInput Path.fileStem?
    rw [hName, Option.map_some, Option.getD_some,
      String.toList_ofList]
  intro hSame
  have hParts :
      name.toList =
        Path.stemOf name.toList ++ output.tag.toList ++
          '.' :: output.ending.toList := by
    rw [← hStem, ← hSame]
    simp [outputName, Output.suffix]
  exact Path.ne_stemOf_append hTag hEnding hParts

------------------------------------------------------------
-- Places
------------------------------------------------------------

/- An output stands in the place of the directory, under its
   own name. -/
theorem place_output
    (input : Path)
    (output : Output)
    (workDir : Location) :
    ((ofInput input).output output).place workDir =
      input.parentDir.place workDir ++
        [(ofInput input).outputName output] := by
  rcases isSingle_outputName input output with
    ⟨hSeparator, hNamed⟩
  rw [output_eq]
  exact
    Path.place_join input.parentDir_ne_empty hSeparator hNamed
      workDir

/- Different outputs have different places. -/
theorem place_output_inj
    {first second : Output}
    {workDir : Location}
    (hSame :
      ((ofInput input).output first).place workDir =
        ((ofInput input).output second).place workDir) :
    first = second := by
  rw [place_output, place_output] at hSame
  exact
    outputName_inj
      (List.singleton_inj.mp (List.append_cancel_left hSame))

/- No output has the place of the trace. -/
theorem place_output_ne_input
    (input : Path)
    (output : Output)
    (workDir : Location) :
    ((ofInput input).output output).place workDir ≠
      input.place workDir := by
  rw [place_output]
  intro hSame
  cases hName : input.fileName? with
  | some name =>
      rw [Path.place_of_fileName hName] at hSame
      exact
        outputName_ne hName output
          (List.singleton_inj.mp
            (List.append_cancel_left hSame))
  | none =>
      have hLength := congrArg List.length hSame
      have hDeep := Path.length_place_le hName workDir
      rw [List.length_append, List.length_singleton] at hLength
      omega

end ReportPaths

end LatencySweep
