import LatencySweep.Json.Fields
import LatencySweep.Json.Printer
import LatencySweep.Sweep.Basic

/-
  Sweeps as JSON.

  Every part of a sweep is an object whose members are its
  fields in order. What a text leaves out has the default,
  where there is one.

  Key definitions include:
    * `Axis.toJson`
    * `Axis.decoder`
    * `Sweep.toJson`
    * `Sweep.decoder`
    * `Sweep.ofJsonText`
-/

namespace LatencySweep

------------------------------------------------------------
-- Axis Values
------------------------------------------------------------

namespace AxisValue

/- A value as JSON. -/
def toJson : AxisValue → Json
  | bool value => .bool value
  | integer value => .integer value
  | text value => .string value

/- The error of a value of any other kind. -/
def noVariant : DecodeError :=
  .mismatch (.noVariant "AxisValue")

/- An integer of 64 bits with a sign. -/
def ofInteger (n : Int) : Except DecodeError AxisValue :=
  if -(twoTo 63 : Int) ≤ n ∧ n < twoTo 63 then .ok (.integer n)
  else .error noVariant

/- A value. The text is read to its end before its kind is
   looked at. -/
def decoder : Decoder AxisValue := fun room draft =>
  match draft.readFault? room with
  | some fault => .error (.fault fault)
  | none =>
      match draft with
      | .bool value => .ok (.bool value)
      | .number (.ok (.integer n)) => ofInteger n
      | .string literal =>
          (Decoder.literalText literal).map .text
      | _ => .error noVariant

end AxisValue

------------------------------------------------------------
-- Axes
------------------------------------------------------------

namespace Axis

/- An axis as JSON. -/
def toJson (axis : Axis) : Json :=
  .object
    [ ("name", .string axis.name),
      ("flag", .string axis.flag),
      ("token", .string axis.token),
      ("values", .array (axis.values.map AxisValue.toJson)) ]

/- The values of an axis. -/
def valuesDecoder : Decoder (List AxisValue) :=
  .list AxisValue.decoder

/- The fields of an axis. -/
def shape : RecordShape :=
  { name := "Axis"
    fields :=
      [ .required "name" Decoder.string,
        .required "flag" Decoder.string,
        .required "token" Decoder.string,
        .required "values" valuesDecoder ] }

/- An axis. -/
def decoder : Decoder Axis := fun room draft => do
  let given ← Decoder.fields shape room draft
  let name ← given.required "name" Decoder.string
  let flag ← given.required "flag" Decoder.string
  let token ← given.required "token" Decoder.string
  let values ← given.required "values" valuesDecoder
  return { name, flag, token, values }

end Axis

------------------------------------------------------------
-- Simulators
------------------------------------------------------------

namespace Simulator

/- A fixed flag as JSON. -/
def flagJson (flag : String × String) : Json :=
  .array [.string flag.1, .string flag.2]

/- A simulator as JSON. -/
def toJson (simulator : Simulator) : Json :=
  .object
    [ ("runner", .string simulator.runner),
      ("scenario", .string simulator.scenario),
      ("fixed_flags",
        .array (simulator.fixedFlags.map flagJson)),
      ("log_file", .string simulator.logFile),
      ("prebuild", .bool simulator.prebuild) ]

/- Flags of every run. -/
def flagsDecoder : Decoder (List (String × String)) :=
  .list (.pair .string .string)

/- The fields of a simulator. -/
def shape : RecordShape :=
  { name := "SimulatorConfig"
    fields :=
      [ .required "runner" Decoder.string,
        .required "scenario" Decoder.string,
        .optional "fixed_flags" flagsDecoder,
        .optional "log_file" Decoder.string,
        .optional "prebuild" Decoder.bool ] }

/- A simulator. -/
def decoder : Decoder Simulator := fun room draft => do
  let given ← Decoder.fields shape room draft
  let runner ← given.required "runner" Decoder.string
  let scenario ← given.required "scenario" Decoder.string
  let fixedFlags ←
    given.optional "fixed_flags" [] flagsDecoder
  let logFile ←
    given.optional "log_file" "output.txt" Decoder.string
  let prebuild ← given.optional "prebuild" false Decoder.bool
  return { runner, scenario, fixedFlags, logFile, prebuild }

end Simulator

------------------------------------------------------------
-- Analyses
------------------------------------------------------------

namespace AnalysisStep

/- An analysis as JSON. -/
def toJson (step : AnalysisStep) : Json :=
  .object
    [ ("name", .string step.name),
      ("program", .string step.program),
      ("args", .array (step.args.map Json.string)),
      ("input_file", .string step.inputFile),
      ("log_file", .string step.logFile) ]

/- The arguments of an analysis. -/
def argsDecoder : Decoder (List String) :=
  .list .string

/- The fields of an analysis. -/
def shape : RecordShape :=
  { name := "AnalysisStep"
    fields :=
      [ .required "name" Decoder.string,
        .required "program" Decoder.string,
        .optional "args" argsDecoder,
        .required "input_file" Decoder.string,
        .optional "log_file" Decoder.string ] }

/- An analysis. -/
def decoder : Decoder AnalysisStep := fun room draft => do
  let given ← Decoder.fields shape room draft
  let name ← given.required "name" Decoder.string
  let program ← given.required "program" Decoder.string
  let args ← given.optional "args" [] argsDecoder
  let inputFile ← given.required "input_file" Decoder.string
  let logFile ←
    given.optional "log_file" "analysis.txt" Decoder.string
  return { name, program, args, inputFile, logFile }

end AnalysisStep

------------------------------------------------------------
-- Policies
------------------------------------------------------------

namespace FailurePolicy

/- A policy as JSON. -/
def toJson (policy : FailurePolicy) : Json :=
  .string policy.name

/- A policy. -/
def decoder : Decoder FailurePolicy := fun room draft =>
  (Decoder.choice (all.map name) room draft).map fun text =>
    (ofName? text).getD .ignore

end FailurePolicy

------------------------------------------------------------
-- Sweeps
------------------------------------------------------------

namespace Sweep

/- A sweep as JSON. -/
def toJson (sweep : Sweep) : Json :=
  .object
    [ ("name", .string sweep.name),
      ("axes", .array (sweep.axes.map Axis.toJson)),
      ("concurrency", .integer sweep.concurrency),
      ("simulator", sweep.simulator.toJson),
      ("analyses",
        .array (sweep.analyses.map AnalysisStep.toJson)),
      ("output_root", .string sweep.outputRoot.text),
      ("dir_prefix", .string sweep.dirPrefix),
      ("on_failure", sweep.onFailure.toJson),
      ("allow_existing", .bool sweep.allowExisting) ]

/- The axes of a sweep. -/
def axesDecoder : Decoder (List Axis) :=
  .list Axis.decoder

/- The analyses of a sweep. -/
def analysesDecoder : Decoder (List AnalysisStep) :=
  .list AnalysisStep.decoder

/- A path. -/
def pathDecoder : Decoder Path := fun room draft =>
  (Decoder.text "path string" room draft).map Path.mk

/- The fields of a sweep. -/
def shape : RecordShape :=
  { name := "SweepConfig"
    fields :=
      [ .required "name" Decoder.string,
        .required "axes" axesDecoder,
        .required "concurrency" Decoder.natural,
        .required "simulator" Simulator.decoder,
        .optional "analyses" analysesDecoder,
        .optional "output_root" pathDecoder,
        .optional "dir_prefix" Decoder.string,
        .optional "on_failure" FailurePolicy.decoder,
        .optional "allow_existing" Decoder.bool ] }

/- A sweep. -/
def decoder : Decoder Sweep := fun room draft => do
  let given ← Decoder.fields shape room draft
  let name ← given.required "name" Decoder.string
  let axes ← given.required "axes" axesDecoder
  let concurrency ←
    given.required "concurrency" Decoder.natural
  let simulator ←
    given.required "simulator" Simulator.decoder
  let analyses ← given.optional "analyses" [] analysesDecoder
  let outputRoot ←
    given.optional "output_root" ⟨"."⟩ pathDecoder
  let dirPrefix ←
    given.optional "dir_prefix" "output" Decoder.string
  let onFailure ←
    given.optional "on_failure" .ignore FailurePolicy.decoder
  let allowExisting ←
    given.optional "allow_existing" false Decoder.bool
  return { name, axes, concurrency, simulator, analyses,
           outputRoot, dirPrefix, onFailure, allowExisting }

/- The sweep that a text describes. -/
def ofJsonText (text : String) : Except DecodeError Sweep :=
  Decoder.decodeText decoder text

end Sweep

end LatencySweep
