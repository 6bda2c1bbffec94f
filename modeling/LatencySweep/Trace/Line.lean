import LatencySweep.Number.Decimal
import LatencySweep.Text.Blank
import LatencySweep.Text.Lines
import LatencySweep.Trace.Record

/-
  Reading the lines of a latency trace.

  A line that starts with the comment mark or holds only
  blanks carries no record. Every other line is cut into
  words, and the schema says which of them are the call
  type and the latency. The first line that cannot be read
  decides the error.

  Key definitions include:
    * `readFinite?`
    * `Schema.isIgnored`
    * `Schema.readLine`
    * `Schema.readBytes`
    * `Schema.readRecords`
-/

namespace LatencySweep

/- A float that is neither infinite nor a NaN. -/
def readFinite? (word : List Char) : Option Binary64 :=
  (Binary64.read? word).filter fun x => x.IsFinite

------------------------------------------------------------
-- Single Lines
------------------------------------------------------------

/- The place of a line: its file and its number. -/
structure LinePlace where
  file : String
  number : Nat

/- The value in a column of a line. -/
def LinePlace.readColumn
    {α : Type}
    (place : LinePlace)
    (columns : List (List Char))
    (column : Column)
    (index : Nat)
    (read? : List Char → Option α) : Except RecordError α :=
  match columns[index]? with
  | none =>
      .error (.missingColumn place.file place.number column
        index columns.length)
  | some word =>
      match read? word with
      | none =>
          .error (.invalidValue place.file place.number
            column (String.ofList word))
      | some value => .ok value

namespace Schema

/- The line is a comment or blank. -/
def isIgnored (schema : Schema) (line : List Char) : Bool :=
  schema.commentMark.toList.isPrefixOf line || allBlank line

/- The record in the columns of a line. -/
def readColumns
    (schema : Schema)
    (place : LinePlace)
    (columns : List (List Char)) :
    Except RecordError Record :=
  match place.readColumn columns .callType
      schema.callTypeColumn readInt64? with
  | .error e => .error e
  | .ok callType =>
      match place.readColumn columns .latency
          schema.latencyColumn readFinite? with
      | .error e => .error e
      | .ok latency => .ok { callType, latency }

/- The record of a line, if it carries one. -/
def readLine
    (schema : Schema)
    (place : LinePlace)
    (line : String) : Except RecordError (Option Record) :=
  if schema.isIgnored line.toList then .ok none
  else
    match schema.readColumns place (words line.toList) with
    | .error e => .error e
    | .ok record => .ok (some record)

------------------------------------------------------------
-- Whole Traces
------------------------------------------------------------

/- The record of a line given as bytes. They have to be
   text even where the line is ignored. -/
def readBytes
    (schema : Schema)
    (place : LinePlace)
    (line : Bytes) : Except RecordError (Option Record) :=
  match Bytes.toText? line with
  | none => .error (.unreadable place.file .malformedText)
  | some text => schema.readLine place text

/- The records of lines that are numbered from `number`. -/
def readLines
    (schema : Schema)
    (file : String)
    (number : Nat) :
    List Bytes → Except RecordError (List Record)
  | [] => .ok []
  | line :: rest =>
      match schema.readBytes ⟨file, number⟩ line with
      | .error e => .error e
      | .ok record? =>
          match schema.readLines file (number + 1) rest with
          | .error e => .error e
          | .ok records => .ok (record?.toList ++ records)

/- The records of a trace. -/
def readRecords
    (schema : Schema)
    (file : String)
    (content : Bytes) : Except RecordError (List Record) :=
  schema.readLines file 1 content.lines

example :
    ({} : Schema).readLine ⟨"t", 1⟩ "# 1 2" = .ok none :=
  rfl
example :
    ({} : Schema).readLine ⟨"t", 1⟩ "1 2 3 x" =
      .error (.invalidValue "t" 1 .callType "x") :=
  rfl
example :
    ({} : Schema).readLine ⟨"t", 1⟩ "1 2 3 4" =
      .error (.missingColumn "t" 1 .latency 4 4) :=
  rfl
example :
    ({} : Schema).readLine ⟨"t", 1⟩ "1 2 3 4 inf" =
      .error (.invalidValue "t" 1 .latency "inf") :=
  rfl

end Schema

end LatencySweep
