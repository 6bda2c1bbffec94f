import LatencySweep.CommandLine.Sweep

/-
  The command that prints a sweep and does nothing else.

  Main declarations:
    * `World.output`
    * `Prints`
    * `SweepOptions.printArgs`
    * `SweepOptions.read_printArgs`
    * `Sweep.printout`
    * `Sweep.prints_printout`
-/

namespace LatencySweep

variable {σ : Type}

------------------------------------------------------------
-- Output
------------------------------------------------------------

/- The text on the standard output. -/
def World.output (w : World σ) : String :=
  String.join (w.printedLines.map (· ++ "\n"))

/- A command has ended well, and this is what it has
   printed. -/
structure Prints
    (run : CommandEnd × World σ)
    (text : String) : Prop where
  ending : run.1 = .done
  output : run.2.output = text

------------------------------------------------------------
-- Arguments
------------------------------------------------------------

namespace SweepOptions

/- The arguments that ask for the sweep in a file. -/
def printArgs (path : Path) : List String :=
  ["--config=" ++ path.text, "--print-config"]

theorem ofText_config (text : String) :
    ArgumentWord.ofText ("--config=" ++ text) =
      .long "config" (some text) := by
  have hText :
      ("--config=" ++ text).toList =
        "--config=".toList ++ text.toList :=
    String.toList_append
  rw [ArgumentWord.ofText, hText]
  change
    ArgumentWord.long "config"
        (some (String.ofList text.toList)) = _
  rw [String.ofList_toList]

/- The first argument puts the path in place. -/
theorem readFrom_config
    {path : Path}
    (hPath : path.text ≠ "")
    {r : CommandReading SweepOptions}
    (hNew : "config" ∉ r.given)
    (rest : List String) :
    form.readFrom (("--config=" ++ path.text) :: rest)
        none r =
      form.readFrom rest none
        { r with
          settings := { r.settings with file := some path }
          given := "config" :: r.given } := by
  have hFile :
      setFile? path.text r.settings =
        some { r.settings with file := some path } := by
    rw [setFile?, path?, if_neg hPath]
    rfl
  have hRead :
      form.readLong "config" (some path.text) r =
        .ok
          ({ r with
              settings :=
                { r.settings with file := some path }
              given := "config" :: r.given }, none) := by
    change
      r.take
          { name := "config", letter := some 'c'
            effect := .value setFile? }
          (some path.text) = _
    simp only [CommandReading.take, if_neg hNew,
      CommandReading.keep, hFile]
  simp only [CommandForm.readFrom, ofText_config, hRead]

/- The second one asks for the printout. -/
theorem readFrom_printConfig
    {r : CommandReading SweepOptions}
    (hNew : "print-config" ∉ r.given) :
    form.readFrom ["--print-config"] none r =
      .ok
        { r with
          settings := { r.settings with printConfig := true }
          given := "print-config" :: r.given } := by
  have hWord :
      ArgumentWord.ofText "--print-config" =
        .long "print-config" none := by
    decide +kernel
  have hRead :
      form.readLong "print-config" none r =
        .ok
          ({ r with
              settings :=
                { r.settings with printConfig := true }
              given := "print-config" :: r.given }, none) := by
    change
      r.take
          { name := "print-config"
            effect :=
              .flag fun o => { o with printConfig := true } }
          none = _
    simp only [CommandReading.take, if_neg hNew]
  rw [CommandForm.readFrom, hWord]
  simp only [hRead, CommandForm.readFrom]

theorem read_printArgs
    {path : Path}
    (hPath : path.text ≠ "") :
    form.read (printArgs path) =
      .ok { file := some path, printConfig := true } := by
  have hNew : "print-config" ∉ ["config"] := by decide
  rw [CommandForm.read, printArgs,
    readFrom_config hPath List.not_mem_nil,
    readFrom_printConfig hNew]
  rfl

end SweepOptions

------------------------------------------------------------
-- Printouts
------------------------------------------------------------

namespace Sweep

variable {sweep : Sweep}

/- What is printed of a sweep. -/
def printout (sweep : Sweep) : String :=
  sweep.toJson.pretty ++ "\n"

/- A command that is asked for a printout prints the sweep
   that it has loaded. -/
theorem prints_printout
    {o : SweepOptions}
    {args : List String}
    {tree : FileTree}
    (runner : Runner σ)
    (programs : σ)
    (hRead : SweepOptions.form.read args = .ok o)
    (hPrint : o.printConfig = true)
    (hLoad : o.load tree = .ok sweep) :
    Prints (sweepCommand runner args (.start tree programs))
      sweep.printout := by
  have hRun :
      sweepCommand runner args (.start tree programs) =
        (.done,
          (World.start tree programs).print
            sweep.toJson.pretty) := by
    have hTree : (World.start tree programs).tree = tree :=
      rfl
    simp only [sweepCommand, CommandForm.perform, hRead,
      SweepOptions.perform, hTree, hLoad, if_pos hPrint]
  rw [hRun]
  exact ⟨rfl, String.empty_append⟩

/- Options that replace nothing load the valid sweep of a
   file as it is. -/
theorem load_printOptions
    {path : Path}
    {tree : FileTree}
    (hFile : ofFile path tree = .ok sweep)
    (hValid : sweep.IsValid) :
    ({ file := some path, printConfig := true } :
        SweepOptions).load tree =
      .ok sweep := by
  have hSame :
      ({ file := some path, printConfig := true } :
          SweepOptions).adjust sweep =
        sweep :=
    rfl
  have hSound : sweep.defect? = none := hValid
  simp only [SweepOptions.load, SweepOptions.base, hFile,
    hSame, hSound]

end Sweep

end LatencySweep
