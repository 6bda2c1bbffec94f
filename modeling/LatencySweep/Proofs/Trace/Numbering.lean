import LatencySweep.Proofs.Text.Lines
import LatencySweep.Proofs.Trace.Lines

/-
  Traces behind each other, and the lines that their errors
  are about.

  Lines are read one by one up to the first that cannot be
  read, and its error tells its number, unless it is no text
  at all. What a line is read as does not depend on its
  number. So a trace behind another one is read as if it
  stood alone, and only the numbers in its error are higher.

  Main declarations:
    * `RecordError.line?`
    * `RecordError.further`
    * `Schema.IsErrorOf`
    * `Schema.readLines_append`
    * `Schema.ReadsInOrder`
    * `Schema.reads_in_order`
-/

namespace LatencySweep

------------------------------------------------------------
-- Numbers in Errors
------------------------------------------------------------

namespace RecordError

/- The number of a line that the error tells. -/
def line? : RecordError → Option Nat
  | unreadable _ _ => none
  | missingColumn _ line _ _ _ => some line
  | invalidValue _ line _ _ => some line

/- The same error with more lines in front. -/
def further (count : Nat) : RecordError → RecordError
  | unreadable file cause => unreadable file cause
  | missingColumn file line column index found =>
      missingColumn file (line + count) column index found
  | invalidValue file line column value =>
      invalidValue file (line + count) column value

end RecordError

/- The same place with more lines in front. -/
def LinePlace.further
    (count : Nat)
    (place : LinePlace) : LinePlace :=
  { place with number := place.number + count }

namespace Schema

variable {schema : Schema} {line : Bytes}
variable {place : LinePlace}

------------------------------------------------------------
-- Errors of Lines
------------------------------------------------------------

/-
  Why a line at a place cannot be read. It is no text, or
  its text lacks a column or has a wrong value, and then the
  error tells the number of the line.
-/
inductive IsErrorOf
    (schema : Schema)
    (place : LinePlace)
    (line : Bytes) : RecordError → Prop where
  | malformed
      (hText : Bytes.toText? line = none) :
      IsErrorOf schema place line
        (.unreadable place.file .malformedText)
  | missing
      {text : String}
      {column : Column}
      {index found : Nat}
      (hText : Bytes.toText? line = some text)
      (hRead :
        schema.readLine place text =
          .error (.missingColumn place.file place.number
            column index found)) :
      IsErrorOf schema place line
        (.missingColumn place.file place.number column index
          found)
  | invalid
      {text value : String}
      {column : Column}
      (hText : Bytes.toText? line = some text)
      (hRead :
        schema.readLine place text =
          .error (.invalidValue place.file place.number
            column value)) :
      IsErrorOf schema place line
        (.invalidValue place.file place.number column value)

/- The error of a column tells the place. -/
theorem readColumn_eq_error
    {α : Type}
    {columns : List (List Char)}
    {column : Column}
    {index : Nat}
    {read? : List Char → Option α}
    {e : RecordError}
    (hRead :
      place.readColumn columns column index read? =
        .error e) :
    (∃ found,
        e = .missingColumn place.file place.number column
          index found) ∨
      ∃ value,
        e = .invalidValue place.file place.number column
          value := by
  unfold LinePlace.readColumn at hRead
  split at hRead
  next =>
    cases hRead
    exact Or.inl ⟨_, rfl⟩
  next =>
    split at hRead
    next =>
      cases hRead
      exact Or.inr ⟨_, rfl⟩
    next => cases hRead

/- So does the error of a line of text. -/
theorem readLine_eq_error
    {text : String}
    {e : RecordError}
    (hRead : schema.readLine place text = .error e) :
    ∃ column,
      (∃ index found,
          e = .missingColumn place.file place.number column
            index found) ∨
        ∃ value,
          e = .invalidValue place.file place.number column
            value := by
  unfold readLine at hRead
  split at hRead
  next => cases hRead
  next =>
    split at hRead
    next first hColumns =>
      cases hRead
      unfold readColumns at hColumns
      split at hColumns
      next first hCallType =>
        cases hColumns
        exact
          ⟨_, (readColumn_eq_error hCallType).imp_left
            fun hMissing => ⟨_, hMissing⟩⟩
      next =>
        split at hColumns
        next first hLatency =>
          cases hColumns
          exact
            ⟨_, (readColumn_eq_error hLatency).imp_left
              fun hMissing => ⟨_, hMissing⟩⟩
        next => cases hColumns
    next => cases hRead

theorem readBytes_eq_error_iff
    {e : RecordError} :
    schema.readBytes place line = .error e ↔
      schema.IsErrorOf place line e := by
  unfold readBytes
  constructor
  · intro hRead
    split at hRead
    next hText =>
      cases hRead
      exact .malformed hText
    next text hText =>
      rcases readLine_eq_error hRead with
        ⟨column, ⟨index, found, rfl⟩ | ⟨value, rfl⟩⟩
      · exact .missing hText hRead
      · exact .invalid hText hRead
  · intro hError
    cases hError with
    | malformed hText => rw [hText]
    | missing hText hRead =>
        rw [hText]
        exact hRead
    | invalid hText hRead =>
        rw [hText]
        exact hRead

------------------------------------------------------------
-- Lines Further Down
------------------------------------------------------------

theorem readColumn_further
    {α : Type}
    (place : LinePlace)
    (count : Nat)
    (columns : List (List Char))
    (column : Column)
    (index : Nat)
    (read? : List Char → Option α) :
    (place.further count).readColumn columns column index
        read? =
      (place.readColumn columns column index
        read?).mapError (RecordError.further count) := by
  unfold LinePlace.readColumn
  cases columns[index]? with
  | none => rfl
  | some word =>
      dsimp only
      cases read? word with
      | none => rfl
      | some value => rfl

/- A line further down is read as the same, and its error
   only tells the number. -/
theorem readBytes_further
    (schema : Schema)
    (place : LinePlace)
    (count : Nat)
    (line : Bytes) :
    schema.readBytes (place.further count) line =
      (schema.readBytes place line).mapError
        (RecordError.further count) := by
  unfold readBytes
  cases Bytes.toText? line with
  | none => rfl
  | some text =>
      dsimp only
      unfold readLine readColumns
      rw [readColumn_further, readColumn_further]
      split
      next => rfl
      next =>
        cases place.readColumn (words text.toList) .callType
            schema.callTypeColumn readInt64? with
        | error e => rfl
        | ok callType =>
            cases place.readColumn (words text.toList)
                .latency schema.latencyColumn
                readFinite? with
            | error e => rfl
            | ok latency => rfl

/- So it is for all lines of a trace. -/
theorem readLines_further
    (schema : Schema)
    (file : String)
    (number count : Nat)
    (lines : List Bytes) :
    schema.readLines file (number + count) lines =
      (schema.readLines file number lines).mapError
        (RecordError.further count) := by
  induction lines generalizing number with
  | nil => rfl
  | cons line lines ih =>
      have hLine :=
        schema.readBytes_further ⟨file, number⟩ count line
      unfold LinePlace.further at hLine
      rw [readLines, readLines, hLine, Nat.add_right_comm,
        ih]
      cases schema.readBytes ⟨file, number⟩ line with
      | error e => rfl
      | ok record? =>
          cases schema.readLines file (number + 1) lines with
          | error e => rfl
          | ok records => rfl

------------------------------------------------------------
-- Traces behind Each Other
------------------------------------------------------------

/-
  What two traces are read as, one behind the other. The
  first one has the given number of lines, and its error
  comes first.
-/
def inSequence
    (count : Nat)
    (first second : Except RecordError (List Record)) :
    Except RecordError (List Record) :=
  match first with
  | .error e => .error e
  | .ok records =>
      (second.mapError (RecordError.further count)).map
        (records ++ ·)

theorem readLines_append
    (schema : Schema)
    (file : String)
    (number : Nat)
    (front back : List Bytes) :
    schema.readLines file number (front ++ back) =
      inSequence front.length
        (schema.readLines file number front)
        (schema.readLines file number back) := by
  unfold inSequence
  rw [← readLines_further]
  -- the lines behind keep their numbers as the front shrinks
  induction front generalizing number with
  | nil =>
      change schema.readLines file number back =
        (schema.readLines file number back).map ([] ++ ·)
      cases schema.readLines file number back with
      | error e => rfl
      | ok records => rfl
  | cons line front ih =>
      have hNumber :
          number + (line :: front).length =
            number + 1 + front.length := by
        rw [List.length_cons]
        omega
      rw [List.cons_append, readLines, readLines, ih,
        hNumber]
      cases schema.readBytes ⟨file, number⟩ line with
      | error e => rfl
      | ok record? =>
          cases schema.readLines file (number + 1) front with
          | error e => rfl
          | ok records =>
              cases schema.readLines file
                  (number + 1 + front.length) back with
              | error e => rfl
              | ok others =>
                  simp [Except.map, List.append_assoc]

------------------------------------------------------------
-- Traces in Order
------------------------------------------------------------

/- The line is text, and it is read as this wherever it
   stands. -/
def IsReadAs
    (schema : Schema)
    (line : Bytes)
    (record? : Option Record) : Prop :=
  ∃ text,
    Bytes.toText? line = some text ∧
      ∀ place, schema.readLine place text = .ok record?

theorem isReadAs_iff
    {record? : Option Record} :
    schema.IsReadAs line record? ↔
      schema.Says line record? := by
  constructor
  · rintro ⟨text, hText, hRead⟩
    have hBytes :
        schema.readBytes ⟨"", 0⟩ line = .ok record? := by
      unfold readBytes
      rw [hText]
      exact hRead ⟨"", 0⟩
    exact readBytes_eq_ok_iff.mp hBytes
  · intro hSays
    have hBytes (place : LinePlace) :
        schema.readBytes place line = .ok record? :=
      readBytes_eq_ok_iff.mpr hSays
    rcases hSays with ⟨text, hText, _⟩
    unfold readBytes at hBytes
    rw [hText] at hBytes
    exact ⟨text, hText, hBytes⟩

/-
  How a trace is read. Its lines are the pieces that line
  feeds end. If all can be read, it has their records;
  otherwise the first one that cannot be read decides the
  error. More lines behind it are read on their own.
-/
structure ReadsInOrder
    (schema : Schema)
    (file : String)
    (content : Bytes) : Prop where
  lines : Bytes.Spells content.lines content
  records :
    ∀ said,
      List.Forall₂ schema.IsReadAs content.lines said →
        schema.readRecords file content =
          .ok (said.filterMap id)
  error :
    ∀ front line back,
      content.lines = front ++ line :: back →
        (∀ before ∈ front,
          ∃ record?, schema.IsReadAs before record?) →
          (¬ ∃ record?, schema.IsReadAs line record?) →
            ∃ e,
              schema.IsErrorOf ⟨file, front.length + 1⟩ line
                  e ∧
                schema.readRecords file content = .error e
  behind :
    content.getLast? = some Bytes.lineFeed →
      ∀ more,
        schema.readRecords file (content ++ more) =
          inSequence content.lines.length
            (schema.readRecords file content)
            (schema.readRecords file more)

theorem reads_in_order
    (schema : Schema)
    (file : String)
    (content : Bytes) :
    schema.ReadsInOrder file content where
  lines := Bytes.spells_lines content
  records := by
    intro said hSaid
    rw [readRecords, readLines_eq_ok_iff]
    exact
      ⟨said, hSaid.imp fun _ _ => isReadAs_iff.mp, rfl⟩
  error := by
    intro front line back hLines hFront hLine
    simp only [isReadAs_iff] at hFront hLine
    rcases exists_error_iff.mpr hLine with ⟨e, hError⟩
    refine ⟨e, readBytes_eq_error_iff.mp hError, ?_⟩
    rw [readRecords, readLines_eq_error_iff]
    refine ⟨front, line, back, hLines, hFront, ?_⟩
    rwa [Nat.add_comm]
  behind := by
    intro hFeed more
    rw [readRecords, Bytes.lines_append (Or.inr hFeed),
      readLines_append]
    rfl

/- Every error tells the number of the first line that
   cannot be read. -/
def TellsLine
    (schema : Schema)
    (file : String)
    (content : Bytes) : Prop :=
  ∀ front line back e,
    content.lines = front ++ line :: back →
      (∀ before ∈ front,
        ∃ record?, schema.IsReadAs before record?) →
        (¬ ∃ record?, schema.IsReadAs line record?) →
          schema.readRecords file content = .error e →
            e.line? = some (front.length + 1)

/- A comment, and a line that is no text. -/
def malformedTrace : Bytes :=
  [35, 10, 255, 10]

/- A line that is no text is reported without a number. -/
theorem malformedTrace_has_no_number :
    ({} : Schema).readRecords "test" malformedTrace =
        .error (.unreadable "test" .malformedText) ∧
      ¬ ({} : Schema).TellsLine "test" malformedTrace := by
  have hRead :
      ({} : Schema).readRecords "test" malformedTrace =
        .error (.unreadable "test" .malformedText) := by
    decide +kernel
  have hComment :
      ({} : Schema).readBytes ⟨"", 0⟩ [35] = .ok none := by
    decide +kernel
  have hMalformed : Bytes.toText? [255] = none := by
    decide +kernel
  refine ⟨hRead, fun hTells => ?_⟩
  have hNumber :=
    hTells [[35]] [255] [] _ (by decide)
      (by
        intro before hMem
        cases List.mem_singleton.mp hMem
        exact
          ⟨none, isReadAs_iff.mpr
            (readBytes_eq_ok_iff.mp hComment)⟩)
      (by
        rintro ⟨record?, text, hText, -⟩
        rw [hMalformed] at hText
        cases hText)
      hRead
  cases hNumber

end Schema

end LatencySweep
