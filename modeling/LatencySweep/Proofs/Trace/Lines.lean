import LatencySweep.Trace.Line
import Mathlib.Data.List.Forall2

/-
  What the lines of a trace say.

  A line is accepted or not by what it says alone. Its file
  and its number only show up in the error. So the records
  of a trace are those of its lines, and the first line that
  is not accepted decides the error.

  Main declarations:
    * `Schema.Says`
    * `Schema.readBytes_eq_ok_iff`
    * `Schema.Accepts`
    * `Schema.readLines_eq_ok_iff`
    * `Schema.readLines_eq_error_iff`
    * `Schema.readLines_of_accepts`
-/

namespace LatencySweep

namespace Schema

variable {schema : Schema} {line : Bytes}
variable {place other : LinePlace}

------------------------------------------------------------
-- Single Lines
------------------------------------------------------------

/- The columns hold the values of a record. -/
structure HasColumns
    (schema : Schema)
    (columns : List (List Char))
    (record : Record) : Prop where
  callType :
    ∃ word,
      columns[schema.callTypeColumn]? = some word ∧
        readInt64? word = some record.callType
  latency :
    ∃ word,
      columns[schema.latencyColumn]? = some word ∧
        readFinite? word = some record.latency

/- The line is text, and either it is ignored or its words
   hold a record. -/
def Says
    (schema : Schema)
    (line : Bytes)
    (record? : Option Record) : Prop :=
  ∃ text,
    Bytes.toText? line = some text ∧
      match record? with
      | none => schema.isIgnored text.toList = true
      | some record =>
          schema.isIgnored text.toList = false ∧
            schema.HasColumns (words text.toList) record

/- The line says something. -/
def Accepts (schema : Schema) (line : Bytes) : Prop :=
  ∃ record?, schema.Says line record?

theorem readColumn_eq_ok_iff
    {α : Type}
    {columns : List (List Char)}
    {column : Column}
    {index : Nat}
    {read? : List Char → Option α}
    {value : α} :
    place.readColumn columns column index read? =
        .ok value ↔
      ∃ word,
        columns[index]? = some word ∧
          read? word = some value := by
  unfold LinePlace.readColumn
  cases hWord : columns[index]? with
  | none => simp
  | some word =>
      cases hRead : read? word with
      | none => simp [hRead]
      | some found => simp [hRead]

theorem readColumns_eq_ok_iff
    {columns : List (List Char)}
    {record : Record} :
    schema.readColumns place columns = .ok record ↔
      schema.HasColumns columns record := by
  unfold readColumns
  constructor
  · intro hRead
    split at hRead
    next => cases hRead
    next callType hCallType =>
      split at hRead
      next => cases hRead
      next latency hLatency =>
        cases hRead
        exact
          { callType := readColumn_eq_ok_iff.mp hCallType
            latency := readColumn_eq_ok_iff.mp hLatency }
  · intro hColumns
    rw [readColumn_eq_ok_iff.mpr hColumns.callType]
    dsimp only
    rw [readColumn_eq_ok_iff.mpr hColumns.latency]

/- What a line is read as does not depend on its place. -/
theorem readBytes_eq_ok_iff
    {record? : Option Record} :
    schema.readBytes place line = .ok record? ↔
      schema.Says line record? := by
  constructor
  · intro hRead
    unfold readBytes readLine at hRead
    split at hRead
    next => cases hRead
    next text hText =>
      refine ⟨text, hText, ?_⟩
      split at hRead
      next hIgnored =>
        cases hRead
        exact hIgnored
      next hData =>
        split at hRead
        next => cases hRead
        next record hColumns =>
          cases hRead
          exact
            ⟨Bool.eq_false_iff.mpr hData,
              readColumns_eq_ok_iff.mp hColumns⟩
  · rintro ⟨text, hText, hSays⟩
    unfold readBytes readLine
    rw [hText]
    dsimp only
    cases record? with
    | none => exact if_pos hSays
    | some record =>
        rcases hSays with ⟨hData, hColumns⟩
        rw [if_neg (Bool.eq_false_iff.mp hData),
          readColumns_eq_ok_iff.mpr hColumns]

/- A line does not say two things. -/
theorem Says.unique
    {first second : Option Record}
    (hFirst : schema.Says line first)
    (hSecond : schema.Says line second) :
    first = second := by
  have hRead : schema.readBytes ⟨"", 0⟩ line = .ok first :=
    readBytes_eq_ok_iff.mpr hFirst
  rw [readBytes_eq_ok_iff.mpr hSecond] at hRead
  exact (Except.ok.inj hRead).symm

/- A line that is not accepted is an error wherever it
   stands. -/
theorem exists_error_iff :
    (∃ e, schema.readBytes place line = .error e) ↔
      ¬ schema.Accepts line := by
  cases hRead : schema.readBytes place line with
  | error e =>
      refine ⟨fun _ => ?_, fun _ => ⟨e, rfl⟩⟩
      rintro ⟨record?, hSays⟩
      rw [readBytes_eq_ok_iff.mpr hSays] at hRead
      cases hRead
  | ok record? =>
      refine ⟨fun hError => ?_, fun hNot => ?_⟩
      · rcases hError with ⟨e, hError⟩
        cases hError
      · exact
          absurd ⟨record?, readBytes_eq_ok_iff.mp hRead⟩ hNot

------------------------------------------------------------
-- Whole Traces
------------------------------------------------------------

variable {file : String} {number : Nat} {lines : List Bytes}

/- A trace has the records that its lines say. -/
theorem readLines_eq_ok_iff
    {records : List Record} :
    schema.readLines file number lines = .ok records ↔
      ∃ said,
        List.Forall₂ schema.Says lines said ∧
          records = said.filterMap id := by
  induction lines generalizing number records with
  | nil =>
      unfold readLines
      constructor
      · intro hRead
        cases hRead
        exact ⟨[], List.Forall₂.nil, rfl⟩
      · rintro ⟨said, hSaid, rfl⟩
        cases hSaid
        rfl
  | cons line lines ih =>
      constructor
      · intro hRead
        unfold readLines at hRead
        split at hRead
        next => cases hRead
        next record? hLine =>
          split at hRead
          next => cases hRead
          next rest hRest =>
            cases hRead
            rcases ih.mp hRest with ⟨said, hSaid, rfl⟩
            refine
              ⟨record? :: said,
                List.Forall₂.cons
                  (readBytes_eq_ok_iff.mp hLine) hSaid, ?_⟩
            cases record? with
            | none => rfl
            | some record => rfl
      · rintro ⟨said, hSaid, rfl⟩
        cases hSaid with
        | @cons _ record? _ _ hLine hLines =>
            unfold readLines
            rw [readBytes_eq_ok_iff.mpr hLine]
            dsimp only
            rw [ih.mpr ⟨_, hLines, rfl⟩]
            cases record? with
            | none => rfl
            | some record => rfl

/- There is an error in the first line, or in one behind it
   once the first line is accepted. -/
theorem readLines_cons_eq_error_iff
    {line : Bytes}
    {e : RecordError} :
    schema.readLines file number (line :: lines) = .error e ↔
      schema.readBytes ⟨file, number⟩ line = .error e ∨
        schema.Accepts line ∧
          schema.readLines file (number + 1) lines =
            .error e := by
  rw [readLines]
  cases hLine : schema.readBytes ⟨file, number⟩ line with
  | error first =>
      have hNot : ¬ schema.Accepts line :=
        exists_error_iff.mp ⟨first, hLine⟩
      simp [hNot]
  | ok record? =>
      have hAccepts : schema.Accepts line :=
        ⟨record?, readBytes_eq_ok_iff.mp hLine⟩
      cases schema.readLines file (number + 1) lines with
      | error later => simp [hAccepts]
      | ok records => simp

/- The first line that is not accepted decides the error. -/
theorem readLines_eq_error_iff
    {e : RecordError} :
    schema.readLines file number lines = .error e ↔
      ∃ front line back,
        lines = front ++ line :: back ∧
          (∀ before ∈ front, schema.Accepts before) ∧
            schema.readBytes ⟨file, number + front.length⟩
              line = .error e := by
  induction lines generalizing number with
  | nil =>
      constructor
      · intro hRead
        cases hRead
      · rintro ⟨front, line, back, hLines, -⟩
        cases front with
        | nil => cases hLines
        | cons first front => cases hLines
  | cons line lines ih =>
      have hNumber (front : List Bytes) :
          number + (line :: front).length =
            number + 1 + front.length := by
        rw [List.length_cons]
        omega
      rw [readLines_cons_eq_error_iff, ih]
      constructor
      · rintro (hLine | ⟨hAccepts, front, bad, back, rfl,
          hFront, hBad⟩)
        · exact ⟨[], line, lines, rfl, nofun, hLine⟩
        · refine
            ⟨line :: front, bad, back, rfl,
              List.forall_mem_cons.mpr ⟨hAccepts, hFront⟩, ?_⟩
          rwa [hNumber]
      · rintro ⟨front, bad, back, hLines, hFront, hBad⟩
        cases front with
        | nil =>
            cases hLines
            exact Or.inl hBad
        | cons first front =>
            cases hLines
            rw [List.forall_mem_cons] at hFront
            rw [hNumber] at hBad
            exact
              Or.inr
                ⟨hFront.1, front, bad, back, rfl, hFront.2,
                  hBad⟩

/- All lines of a trace with records are accepted. -/
theorem accepts_of_readLines
    {records : List Record}
    (hRead : schema.readLines file number lines = .ok records) :
    ∀ line ∈ lines, schema.Accepts line := by
  rcases readLines_eq_ok_iff.mp hRead with ⟨said, hSaid, -⟩
  clear hRead
  induction hSaid with
  | nil => exact fun _ hNone => by cases hNone
  | @cons line record? lines said hLine _ ih =>
      intro other hMem
      rcases List.mem_cons.mp hMem with rfl | hRest
      · exact ⟨record?, hLine⟩
      · exact ih other hRest

/- A trace cannot be read if one of its lines is not
   accepted. -/
theorem exists_readLines_error_iff :
    (∃ e, schema.readLines file number lines = .error e) ↔
      ∃ line ∈ lines, ¬ schema.Accepts line := by
  constructor
  · rintro ⟨e, hError⟩
    rcases readLines_eq_error_iff.mp hError with
      ⟨front, line, back, rfl, -, hLine⟩
    exact
      ⟨line, List.mem_append_right _ List.mem_cons_self,
        exists_error_iff.mp ⟨e, hLine⟩⟩
  · rintro ⟨line, hMem, hNot⟩
    cases hRead : schema.readLines file number lines with
    | error e => exact ⟨e, rfl⟩
    | ok records =>
        exact absurd (accepts_of_readLines hRead line hMem) hNot

/- The latency of a record is finite. -/
theorem isFinite_of_readLines
    {records : List Record}
    (hRead : schema.readLines file number lines = .ok records)
    {record : Record}
    (hMem : record ∈ records) :
    record.latency.IsFinite := by
  rcases readLines_eq_ok_iff.mp hRead with ⟨said, hSaid, rfl⟩
  rcases List.mem_filterMap.mp hMem with
    ⟨record?, hIn, hSome⟩
  cases hSome
  clear hRead hMem
  induction hSaid with
  | nil => cases hIn
  | @cons line first lines said hLine _ ih =>
      rcases List.mem_cons.mp hIn with rfl | hRest
      · rcases hLine with ⟨text, -, -, hColumns⟩
        rcases hColumns.latency with ⟨word, -, hWord⟩
        exact
          of_decide_eq_true (Option.filter_eq_some_iff.mp hWord).2
      · exact ih hRest

------------------------------------------------------------
-- Data Lines
------------------------------------------------------------

/- The line is no comment and not blank. -/
def isData (schema : Schema) (line : Bytes) : Bool :=
  match Bytes.toText? line with
  | none => true
  | some text => !schema.isIgnored text.toList

/- The record of a line, if it has one. -/
def recordOf? (schema : Schema) (line : Bytes) :
    Option Record :=
  match schema.readBytes ⟨"", 0⟩ line with
  | .ok record? => record?
  | .error _ => none

theorem Says.recordOf?_eq
    {record? : Option Record}
    (hSays : schema.Says line record?) :
    schema.recordOf? line = record? := by
  unfold recordOf?
  rw [readBytes_eq_ok_iff.mpr hSays]

/- Lines that are ignored have no record. -/
theorem recordOf?_of_ignored
    (hIgnored : schema.isData line = false) :
    schema.recordOf? line = none := by
  unfold isData at hIgnored
  split at hIgnored
  next => cases hIgnored
  next text hText =>
    have hSays : schema.Says line none :=
      ⟨text, hText, by simpa using hIgnored⟩
    exact hSays.recordOf?_eq

/- A trace has the records of its data lines. -/
theorem readLines_of_accepts
    (hAccepts : ∀ line ∈ lines, schema.Accepts line) :
    schema.readLines file number lines =
      .ok ((lines.filter schema.isData).filterMap
        schema.recordOf?) := by
  have hSaid :
      List.Forall₂ schema.Says lines
        (lines.map schema.recordOf?) := by
    rw [List.forall₂_map_right_iff, List.forall₂_same]
    intro line hMem
    rcases hAccepts line hMem with ⟨record?, hSays⟩
    rwa [hSays.recordOf?_eq]
  rw [readLines_eq_ok_iff]
  refine ⟨_, hSaid, ?_⟩
  rw [List.filterMap_filter, List.filterMap_map]
  apply List.filterMap_congr
  intro line _
  cases hData : schema.isData line with
  | true => rfl
  | false => exact (recordOf?_of_ignored hData).symm

end Schema

end LatencySweep
