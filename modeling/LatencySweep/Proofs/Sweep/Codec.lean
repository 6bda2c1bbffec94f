import LatencySweep.Proofs.Json.Records
import LatencySweep.Sweep.Format

/-
  The parts of a sweep are read by their decoders.

  What tells a part is an object with its fields. The ones
  with a default may be left out, and are taken from what
  the decoder has for them. A sweep is nested four levels
  deep. What is written of a part tells it with all its
  fields, so nothing is left to the defaults there.

  Main declarations:
    * `AxisValue.IsWord`
    * `Axis.telling`
    * `Simulator.telling`
    * `AnalysisStep.telling`
    * `Sweep.telling`
    * `Sweep.HasWords`
    * `Sweep.decoder_reads`
    * `Sweep.telling_draft`
    * `Sweep.toJson_isReadable`
-/

namespace LatencySweep

------------------------------------------------------------
-- Axis Values
------------------------------------------------------------

namespace AxisValue

/- An integer has 64 bits with a sign. -/
def IsWord : AxisValue → Prop
  | integer n => -(twoTo 63 : Int) ≤ n ∧ n < twoTo 63
  | bool _ | text _ => True

variable {value : AxisValue}

theorem toJson_isReadable
    (hWord : value.IsWord) :
    value.toJson.IsReadable := by
  cases value with
  | bool b => trivial
  | integer n =>
      have hRange : twoTo 63 ≤ twoTo 64 := by decide
      exact ⟨hWord.1, by have := hWord.2; omega⟩
  | text s => trivial

/- A value is told as what it is. -/
def telling : AxisValue → Telling
  | bool b => .bool b
  | integer n => .integer n
  | text s => .text s

theorem telling_draft (value : AxisValue) :
    value.telling value.toJson.draft [] := by
  cases value with
  | bool b => exact ⟨rfl, rfl⟩
  | integer n => exact ⟨rfl, rfl⟩
  | text s => exact Telling.text_draft s

/- A value is read with its kind. -/
theorem decoder_reads
    (depth : Nat)
    (hWord : value.IsWord) :
    decoder.Reads depth value.telling value := by
  intro draft lost hTells room _
  cases value with
  | bool b =>
      rcases hTells with ⟨rfl, rfl⟩
      rfl
  | integer n =>
      rcases hTells with ⟨rfl, rfl⟩
      change ofInteger n = _
      exact if_pos hWord
  | text s =>
      rcases hTells with ⟨rfl, literal, hText, rfl⟩
      simp only [decoder, Draft.readFault?,
        StringLiteral.readFault?, hText,
        Decoder.literalText_eq hText]
      rfl

end AxisValue

------------------------------------------------------------
-- Axes
------------------------------------------------------------

namespace Axis

variable {axis : Axis}

theorem toJson_isReadable
    (hWords : ∀ value ∈ axis.values, value.IsWord) :
    axis.toJson.IsReadable := by
  have hValues :=
    Json.isReadable_array_map fun value hValue =>
      AxisValue.toJson_isReadable (hWords value hValue)
  exact ⟨trivial, trivial, trivial, hValues, trivial⟩

/- The fields of an axis. -/
def entries (axis : Axis) : List RecordEntry :=
  [ .required "name" (.text axis.name),
    .required "flag" (.text axis.flag),
    .required "token" (.text axis.token),
    .required "values" (.list AxisValue.telling axis.values) ]

theorem names_nodup (axis : Axis) :
    (axis.entries.map RecordEntry.name).Nodup := by
  simp [entries, RecordEntry.required]

/- An axis has all its fields. -/
def telling (axis : Axis) : Telling :=
  .record axis.entries

theorem telling_draft (axis : Axis) :
    axis.telling axis.toJson.draft [] := by
  have hValues :=
    Telling.list_draft fun value (_ : value ∈ axis.values) =>
      value.telling_draft
  exact
    Telling.record_draft <|
    .cons ⟨rfl, Telling.text_draft _⟩ <|
    .cons ⟨rfl, Telling.text_draft _⟩ <|
    .cons ⟨rfl, Telling.text_draft _⟩ <|
    .cons ⟨rfl, hValues⟩ .nil

theorem decoder_reads
    (hWords : ∀ value ∈ axis.values, value.IsWord) :
    decoder.Reads 2 axis.telling axis := by
  have hName := Decoder.string_reads 1 axis.name
  have hFlag := Decoder.string_reads 1 axis.flag
  have hToken := Decoder.string_reads 1 axis.token
  have hValues : valuesDecoder.Reads 1 _ axis.values :=
    .list fun value hValue =>
      AxisValue.decoder_reads 0 (hWords value hValue)
  refine .record ⟨axis.names_nodup, ?_⟩ ?_
  · exact
      .cons (hName.matches rfl rfl) <|
      .cons (hFlag.matches rfl rfl) <|
      .cons (hToken.matches rfl rfl) <|
      .cons (hValues.matches rfl rfl) .nil
  · intro drafts lost hRoom hTell
    refine hTell.required_bind hName hRoom fun _ hTell => ?_
    refine hTell.required_bind hFlag hRoom fun _ hTell => ?_
    refine hTell.required_bind hToken hRoom fun _ hTell => ?_
    refine hTell.required_bind hValues hRoom fun _ hTell => ?_
    exact hTell.pure_eq axis

end Axis

------------------------------------------------------------
-- Simulators
------------------------------------------------------------

namespace Simulator

theorem toJson_isReadable (simulator : Simulator) :
    simulator.toJson.IsReadable := by
  have hFlags :
      (Json.array
        (simulator.fixedFlags.map flagJson)).IsReadable :=
    Json.isReadable_array_map fun _ _ =>
      ⟨trivial, trivial, trivial⟩
  exact ⟨trivial, trivial, hFlags, trivial, trivial, trivial⟩

/- A fixed flag is a list of its parts. -/
def flagTelling (flag : String × String) : Telling :=
  .pair (.text flag.1) (.text flag.2)

theorem flagTelling_draft (flag : String × String) :
    flagTelling flag (flagJson flag).draft [] :=
  ⟨rfl, _, _, Telling.text_draft flag.1,
    Telling.text_draft flag.2, rfl⟩

/- The fields of a simulator. -/
def entries (simulator : Simulator) : List RecordEntry :=
  [ .required "runner" (.text simulator.runner),
    .required "scenario" (.text simulator.scenario),
    .optional "fixed_flags"
      (.list flagTelling simulator.fixedFlags)
      (simulator.fixedFlags = []),
    .optional "log_file" (.text simulator.logFile)
      (simulator.logFile = "output.txt"),
    .optional "prebuild" (.bool simulator.prebuild)
      (simulator.prebuild = false) ]

theorem names_nodup (simulator : Simulator) :
    (simulator.entries.map RecordEntry.name).Nodup := by
  simp [entries, RecordEntry.required, RecordEntry.optional]

/- A simulator. -/
def telling (simulator : Simulator) : Telling :=
  .record simulator.entries

theorem telling_draft (simulator : Simulator) :
    simulator.telling simulator.toJson.draft [] := by
  have hFlags :=
    Telling.list_draft
      fun flag (_ : flag ∈ simulator.fixedFlags) =>
        flagTelling_draft flag
  exact
    Telling.record_draft <|
    .cons ⟨rfl, Telling.text_draft _⟩ <|
    .cons ⟨rfl, Telling.text_draft _⟩ <|
    .cons ⟨rfl, hFlags⟩ <|
    .cons ⟨rfl, Telling.text_draft _⟩ <|
    .cons ⟨rfl, rfl, rfl⟩ .nil

theorem decoder_reads (simulator : Simulator) :
    decoder.Reads 3 simulator.telling simulator := by
  have hRunner := Decoder.string_reads 2 simulator.runner
  have hScenario := Decoder.string_reads 2 simulator.scenario
  have hFlags : flagsDecoder.Reads 2 _ simulator.fixedFlags :=
    .list fun flag _ =>
      .pair (Decoder.string_reads 0 flag.1)
        (Decoder.string_reads 0 flag.2)
  have hLog := Decoder.string_reads 2 simulator.logFile
  have hBuild := Decoder.bool_reads 2 simulator.prebuild
  refine .record ⟨simulator.names_nodup, ?_⟩ ?_
  · exact
      .cons (hRunner.matches rfl rfl) <|
      .cons (hScenario.matches rfl rfl) <|
      .cons (hFlags.matches rfl rfl) <|
      .cons (hLog.matches rfl rfl) <|
      .cons (hBuild.matches rfl rfl) .nil
  · intro drafts lost hRoom hTell
    refine hTell.required_bind hRunner hRoom fun _ hTell => ?_
    refine hTell.required_bind hScenario hRoom fun _ hTell => ?_
    refine hTell.optional_bind id hFlags hRoom fun _ hTell => ?_
    refine hTell.optional_bind id hLog hRoom fun _ hTell => ?_
    refine hTell.optional_bind id hBuild hRoom fun _ hTell => ?_
    exact hTell.pure_eq simulator

end Simulator

------------------------------------------------------------
-- Analyses
------------------------------------------------------------

namespace AnalysisStep

theorem toJson_isReadable (step : AnalysisStep) :
    step.toJson.IsReadable := by
  have hArgs :
      (Json.array (step.args.map Json.string)).IsReadable :=
    Json.isReadable_array_map fun _ _ => trivial
  exact ⟨trivial, trivial, hArgs, trivial, trivial, trivial⟩

/- The fields of an analysis. -/
def entries (step : AnalysisStep) : List RecordEntry :=
  [ .required "name" (.text step.name),
    .required "program" (.text step.program),
    .optional "args" (.list Telling.text step.args)
      (step.args = []),
    .required "input_file" (.text step.inputFile),
    .optional "log_file" (.text step.logFile)
      (step.logFile = "analysis.txt") ]

theorem names_nodup (step : AnalysisStep) :
    (step.entries.map RecordEntry.name).Nodup := by
  simp [entries, RecordEntry.required, RecordEntry.optional]

/- An analysis. -/
def telling (step : AnalysisStep) : Telling :=
  .record step.entries

theorem telling_draft (step : AnalysisStep) :
    step.telling step.toJson.draft [] := by
  have hArgs :=
    Telling.list_draft fun arg (_ : arg ∈ step.args) =>
      Telling.text_draft arg
  exact
    Telling.record_draft <|
    .cons ⟨rfl, Telling.text_draft _⟩ <|
    .cons ⟨rfl, Telling.text_draft _⟩ <|
    .cons ⟨rfl, hArgs⟩ <|
    .cons ⟨rfl, Telling.text_draft _⟩ <|
    .cons ⟨rfl, Telling.text_draft _⟩ .nil

theorem decoder_reads (step : AnalysisStep) :
    decoder.Reads 2 step.telling step := by
  have hName := Decoder.string_reads 1 step.name
  have hProgram := Decoder.string_reads 1 step.program
  have hArgs : argsDecoder.Reads 1 _ step.args :=
    .list fun arg _ => Decoder.string_reads 0 arg
  have hInput := Decoder.string_reads 1 step.inputFile
  have hLog := Decoder.string_reads 1 step.logFile
  refine .record ⟨step.names_nodup, ?_⟩ ?_
  · exact
      .cons (hName.matches rfl rfl) <|
      .cons (hProgram.matches rfl rfl) <|
      .cons (hArgs.matches rfl rfl) <|
      .cons (hInput.matches rfl rfl) <|
      .cons (hLog.matches rfl rfl) .nil
  · intro drafts lost hRoom hTell
    refine hTell.required_bind hName hRoom fun _ hTell => ?_
    refine hTell.required_bind hProgram hRoom fun _ hTell => ?_
    refine hTell.optional_bind id hArgs hRoom fun _ hTell => ?_
    refine hTell.required_bind hInput hRoom fun _ hTell => ?_
    refine hTell.optional_bind id hLog hRoom fun _ hTell => ?_
    exact hTell.pure_eq step

end AnalysisStep

------------------------------------------------------------
-- Policies
------------------------------------------------------------

theorem FailurePolicy.decoder_reads
    (depth : Nat)
    (policy : FailurePolicy) :
    decoder.Reads depth (.text policy.name) policy := by
  intro draft lost hTells room hRoom
  have hKnown : policy.name ∈ all.map name := by
    cases policy <;> decide
  rw [decoder,
    Decoder.choice_reads depth hKnown draft lost hTells room
      hRoom]
  rcases hTells with ⟨rfl, _⟩
  simp only [outcome_nil, Except.map, ofName?_name,
    Option.getD_some]

------------------------------------------------------------
-- Sweeps
------------------------------------------------------------

namespace Sweep

/- The numbers of the sweep have 64 bits. -/
structure HasWords (sweep : Sweep) : Prop where
  concurrency : sweep.concurrency < twoTo 64
  values :
    ∀ axis ∈ sweep.axes, ∀ value ∈ axis.values,
      value.IsWord

variable {sweep : Sweep}

theorem toJson_isReadable
    (hWords : sweep.HasWords) :
    sweep.toJson.IsReadable := by
  have hAxes :=
    Json.isReadable_array_map fun axis hAxis =>
      Axis.toJson_isReadable (hWords.values axis hAxis)
  have hSimulator := sweep.simulator.toJson_isReadable
  have hSteps :
      (Json.array
        (sweep.analyses.map
          AnalysisStep.toJson)).IsReadable :=
    Json.isReadable_array_map fun step _ =>
      step.toJson_isReadable
  have hConcurrency : FitsWord sweep.concurrency := by
    have hRange := hWords.concurrency
    exact ⟨by omega, by omega⟩
  exact
    ⟨trivial, hAxes, hConcurrency, hSimulator, hSteps,
      trivial, trivial, trivial, trivial, trivial⟩

/- The fields of a sweep. -/
def entries (sweep : Sweep) : List RecordEntry :=
  [ .required "name" (.text sweep.name),
    .required "axes" (.list Axis.telling sweep.axes),
    .required "concurrency" (.integer sweep.concurrency),
    .required "simulator" sweep.simulator.telling,
    .optional "analyses"
      (.list AnalysisStep.telling sweep.analyses)
      (sweep.analyses = []),
    .optional "output_root" (.text sweep.outputRoot.text)
      (sweep.outputRoot.text = "."),
    .optional "dir_prefix" (.text sweep.dirPrefix)
      (sweep.dirPrefix = "output"),
    .optional "on_failure" (.text sweep.onFailure.name)
      (sweep.onFailure = .ignore),
    .optional "allow_existing" (.bool sweep.allowExisting)
      (sweep.allowExisting = false) ]

theorem names_nodup (sweep : Sweep) :
    (sweep.entries.map RecordEntry.name).Nodup := by
  simp [entries, RecordEntry.required, RecordEntry.optional]

/- A sweep. -/
def telling (sweep : Sweep) : Telling :=
  .record sweep.entries

theorem telling_draft (sweep : Sweep) :
    sweep.telling sweep.toJson.draft [] := by
  have hAxes :=
    Telling.list_draft fun axis (_ : axis ∈ sweep.axes) =>
      axis.telling_draft
  have hSteps :=
    Telling.list_draft fun step (_ : step ∈ sweep.analyses) =>
      step.telling_draft
  exact
    Telling.record_draft <|
    .cons ⟨rfl, Telling.text_draft _⟩ <|
    .cons ⟨rfl, hAxes⟩ <|
    .cons ⟨rfl, rfl, rfl⟩ <|
    .cons ⟨rfl, sweep.simulator.telling_draft⟩ <|
    .cons ⟨rfl, hSteps⟩ <|
    .cons ⟨rfl, Telling.text_draft _⟩ <|
    .cons ⟨rfl, Telling.text_draft _⟩ <|
    .cons ⟨rfl, Telling.text_draft _⟩ <|
    .cons ⟨rfl, rfl, rfl⟩ .nil

theorem pathDecoder_reads
    (depth : Nat)
    (path : Path) :
    pathDecoder.Reads depth (.text path.text) path := by
  intro draft lost hTells room hRoom
  rw [pathDecoder,
    Decoder.text_reads depth _ path.text draft lost hTells
      room hRoom]
  rcases hTells with ⟨rfl, _⟩
  rfl

theorem decoder_reads
    (hWords : sweep.HasWords) :
    decoder.Reads 4 sweep.telling sweep := by
  have hName := Decoder.string_reads 3 sweep.name
  have hAxes : axesDecoder.Reads 3 _ sweep.axes :=
    .list fun axis hAxis =>
      Axis.decoder_reads (hWords.values axis hAxis)
  have hConcurrency :=
    Decoder.natural_reads 3 sweep.concurrency
  have hSimulator := sweep.simulator.decoder_reads
  have hSteps : analysesDecoder.Reads 3 _ sweep.analyses :=
    .list fun step _ => step.decoder_reads
  have hRoot := pathDecoder_reads 3 sweep.outputRoot
  have hHere :
      sweep.outputRoot.text = "." → sweep.outputRoot = ⟨"."⟩ :=
    congrArg Path.mk
  have hPrefix := Decoder.string_reads 3 sweep.dirPrefix
  have hPolicy := sweep.onFailure.decoder_reads 3
  have hExisting := Decoder.bool_reads 3 sweep.allowExisting
  refine .record ⟨sweep.names_nodup, ?_⟩ ?_
  · exact
      .cons (hName.matches rfl rfl) <|
      .cons (hAxes.matches rfl rfl) <|
      .cons (hConcurrency.matches rfl rfl) <|
      .cons (hSimulator.matches rfl rfl) <|
      .cons (hSteps.matches rfl rfl) <|
      .cons (hRoot.matches rfl rfl) <|
      .cons (hPrefix.matches rfl rfl) <|
      .cons (hPolicy.matches rfl rfl) <|
      .cons (hExisting.matches rfl rfl) .nil
  · intro drafts lost hRoom hTell
    refine hTell.required_bind hName hRoom fun _ hTell => ?_
    refine hTell.required_bind hAxes hRoom fun _ hTell => ?_
    refine
      hTell.required_bind hConcurrency hRoom fun _ hTell => ?_
    refine
      hTell.required_bind hSimulator hRoom fun _ hTell => ?_
    refine hTell.optional_bind id hSteps hRoom fun _ hTell => ?_
    refine
      hTell.optional_bind hHere hRoot hRoom fun _ hTell => ?_
    refine
      hTell.optional_bind id hPrefix hRoom fun _ hTell => ?_
    refine
      hTell.optional_bind id hPolicy hRoom fun _ hTell => ?_
    refine
      hTell.optional_bind id hExisting hRoom fun _ hTell => ?_
    exact hTell.pure_eq sweep

end Sweep

end LatencySweep
