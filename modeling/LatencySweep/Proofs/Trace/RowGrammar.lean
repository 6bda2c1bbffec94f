import LatencySweep.Proofs.Number.Literals
import LatencySweep.Proofs.Text.Pieces
import LatencySweep.Proofs.Trace.Lines

/-
  The rows that the lines of a trace may hold.

  A line that is neither a comment nor blank is a row of the
  pieces between its blanks. It is read as a record if the
  columns of the schema are there and spell a whole number
  and a finite float. Otherwise the call type is complained
  about before the latency, and a column that is missing
  before one that cannot be read.

  Main declarations:
    * `Schema.IsRow`
    * `Schema.IsRowDefect`
    * `Schema.readColumnsInSteps?_eq`
    * `Schema.ReadsRows`
    * `Schema.readsRows`
-/

namespace LatencySweep

namespace Schema

variable {schema : Schema} {place : LinePlace}
variable {columns : List (List Char)}

------------------------------------------------------------
-- Rows
------------------------------------------------------------

/- Both columns are there and spell the values of the
   record. -/
structure IsRow
    (schema : Schema)
    (columns : List (List Char))
    (record : Record) : Prop where
  callType_lt : schema.callTypeColumn < columns.length
  latency_lt : schema.latencyColumn < columns.length
  callType :
    SpellsInt64 columns[schema.callTypeColumn] record.callType
  latency :
    Binary64.SpellsFloat columns[schema.latencyColumn]
      record.latency
  isFinite : record.latency.IsFinite

/- The first column is there and spells a whole number. -/
structure HasCallType
    (schema : Schema)
    (columns : List (List Char)) : Prop where
  callType_lt : schema.callTypeColumn < columns.length
  callType :
    ∃ n, SpellsInt64 columns[schema.callTypeColumn] n

/- What is wrong with a row, and what is said about it. -/
inductive IsRowDefect
    (schema : Schema)
    (place : LinePlace)
    (columns : List (List Char)) : RecordError → Prop where
  | missingCallType
      (hShort : columns.length ≤ schema.callTypeColumn) :
      IsRowDefect schema place columns
        (.missingColumn place.file place.number .callType
          schema.callTypeColumn columns.length)
  | invalidCallType
      (hLess : schema.callTypeColumn < columns.length)
      (hNone :
        ∀ n, ¬ SpellsInt64 columns[schema.callTypeColumn] n) :
      IsRowDefect schema place columns
        (.invalidValue place.file place.number .callType
          (String.ofList columns[schema.callTypeColumn]))
  | missingLatency
      (hCallType : schema.HasCallType columns)
      (hShort : columns.length ≤ schema.latencyColumn) :
      IsRowDefect schema place columns
        (.missingColumn place.file place.number .latency
          schema.latencyColumn columns.length)
  | invalidLatency
      (hCallType : schema.HasCallType columns)
      (hLess : schema.latencyColumn < columns.length)
      (hNone :
        ∀ x,
          Binary64.SpellsFloat columns[schema.latencyColumn] x →
            ¬ x.IsFinite) :
      IsRowDefect schema place columns
        (.invalidValue place.file place.number .latency
          (String.ofList columns[schema.latencyColumn]))

------------------------------------------------------------
-- Single Columns
------------------------------------------------------------

theorem readFinite?_eq_some_iff
    {word : List Char}
    {x : Binary64} :
    readFinite? word = some x ↔
      Binary64.SpellsFloat word x ∧ x.IsFinite := by
  unfold readFinite?
  rw [Option.filter_eq_some_iff, decide_eq_true_eq,
    Binary64.read?_eq_some_iff]

/- A column is missing, or it cannot be read. -/
theorem readColumn_eq_error_iff
    {α : Type}
    {column : Column}
    {index : Nat}
    {read? : List Char → Option α}
    {e : RecordError} :
    place.readColumn columns column index read? = .error e ↔
      columns.length ≤ index ∧
          e = .missingColumn place.file place.number column
            index columns.length ∨
        ∃ hLess : index < columns.length,
          read? columns[index] = none ∧
            e = .invalidValue place.file place.number column
              (String.ofList columns[index]) := by
  unfold LinePlace.readColumn
  by_cases hLess : index < columns.length
  · have hNotShort : ¬ columns.length ≤ index :=
      Nat.not_le.mpr hLess
    rw [List.getElem?_eq_getElem hLess]
    cases hRead : read? columns[index] with
    | none => simp [hLess, hNotShort, hRead, @eq_comm _ e]
    | some value => simp [hNotShort, hRead]
  · have hShort : columns.length ≤ index :=
      Nat.not_lt.mp hLess
    rw [List.getElem?_eq_none hShort]
    simp [hLess, hShort, @eq_comm _ e]

theorem readCallType_eq_ok_iff
    {n : Int} :
    place.readColumn columns .callType schema.callTypeColumn
        readInt64? = .ok n ↔
      ∃ hLess : schema.callTypeColumn < columns.length,
        SpellsInt64 columns[schema.callTypeColumn] n := by
  rw [readColumn_eq_ok_iff]
  constructor
  · rintro ⟨word, hWord, hRead⟩
    rcases List.getElem?_eq_some_iff.mp hWord with ⟨hLess, rfl⟩
    exact ⟨hLess, readInt64?_eq_some_iff.mp hRead⟩
  · rintro ⟨hLess, hSpells⟩
    exact
      ⟨_, List.getElem?_eq_getElem hLess,
        readInt64?_eq_some_iff.mpr hSpells⟩

theorem hasColumns_iff_isRow
    {record : Record} :
    schema.HasColumns columns record ↔
      schema.IsRow columns record := by
  constructor
  · rintro ⟨⟨word, hWord, hCallType⟩, other, hOther, hLatency⟩
    rcases List.getElem?_eq_some_iff.mp hWord with
      ⟨hCallTypeLess, rfl⟩
    rcases List.getElem?_eq_some_iff.mp hOther with
      ⟨hLatencyLess, rfl⟩
    rcases readFinite?_eq_some_iff.mp hLatency with
      ⟨hSpells, hFinite⟩
    exact
      { callType_lt := hCallTypeLess
        latency_lt := hLatencyLess
        callType := readInt64?_eq_some_iff.mp hCallType
        latency := hSpells
        isFinite := hFinite }
  · intro hRow
    have hLatency :=
      readFinite?_eq_some_iff.mpr ⟨hRow.latency, hRow.isFinite⟩
    exact
      { callType :=
          ⟨_, List.getElem?_eq_getElem hRow.callType_lt,
            readInt64?_eq_some_iff.mpr hRow.callType⟩
        latency :=
          ⟨_, List.getElem?_eq_getElem hRow.latency_lt,
            hLatency⟩ }

------------------------------------------------------------
-- All Columns
------------------------------------------------------------

/- There is an error in the first column, or in the second
   one if the first one has a call type. -/
theorem readColumns_eq_error_iff_columns
    {e : RecordError} :
    schema.readColumns place columns = .error e ↔
      place.readColumn columns .callType
          schema.callTypeColumn readInt64? = .error e ∨
        schema.HasCallType columns ∧
          place.readColumn columns .latency
            schema.latencyColumn readFinite? = .error e := by
  unfold readColumns
  cases hCallType :
      place.readColumn columns .callType
        schema.callTypeColumn readInt64? with
  | error first =>
      have hNone : ¬ schema.HasCallType columns := by
        rintro ⟨hLess, n, hSpells⟩
        cases hCallType.symm.trans
          (readCallType_eq_ok_iff.mpr ⟨hLess, hSpells⟩)
      simp [hNone]
  | ok n =>
      rcases readCallType_eq_ok_iff.mp hCallType with
        ⟨hLess, hSpells⟩
      have hSome : schema.HasCallType columns :=
        ⟨hLess, n, hSpells⟩
      cases place.readColumn columns .latency
        schema.latencyColumn readFinite? with
      | error second => simp [hSome]
      | ok x => simp

/- The first defect of a row is what is said about it. -/
theorem readColumns_eq_error_iff
    {e : RecordError} :
    schema.readColumns place columns = .error e ↔
      schema.IsRowDefect place columns e := by
  rw [readColumns_eq_error_iff_columns]
  constructor
  · rintro (hCallType | ⟨hCallType, hLatency⟩)
    · rcases readColumn_eq_error_iff.mp hCallType with
        ⟨hShort, rfl⟩ | ⟨hLess, hNone, rfl⟩
      · exact .missingCallType hShort
      · refine .invalidCallType hLess fun n hSpells => ?_
        rw [readInt64?_eq_some_iff.mpr hSpells] at hNone
        cases hNone
    · rcases readColumn_eq_error_iff.mp hLatency with
        ⟨hShort, rfl⟩ | ⟨hLess, hNone, rfl⟩
      · exact .missingLatency hCallType hShort
      · refine
          .invalidLatency hCallType hLess
            fun x hSpells hFinite => ?_
        rw [readFinite?_eq_some_iff.mpr ⟨hSpells, hFinite⟩]
          at hNone
        cases hNone
  · intro hDefect
    cases hDefect with
    | missingCallType hShort =>
        exact
          Or.inl
            (readColumn_eq_error_iff.mpr
              (Or.inl ⟨hShort, rfl⟩))
    | invalidCallType hLess hNone =>
        refine
          Or.inl
            (readColumn_eq_error_iff.mpr
              (Or.inr ⟨hLess, ?_, rfl⟩))
        rw [Option.eq_none_iff_forall_ne_some]
        intro n hRead
        exact hNone n (readInt64?_eq_some_iff.mp hRead)
    | missingLatency hCallType hShort =>
        exact
          Or.inr
            ⟨hCallType,
              readColumn_eq_error_iff.mpr
                (Or.inl ⟨hShort, rfl⟩)⟩
    | invalidLatency hCallType hLess hNone =>
        refine
          Or.inr
            ⟨hCallType,
              readColumn_eq_error_iff.mpr
                (Or.inr ⟨hLess, ?_, rfl⟩)⟩
        rw [Option.eq_none_iff_forall_ne_some]
        intro x hRead
        rcases readFinite?_eq_some_iff.mp hRead with
          ⟨hSpells, hFinite⟩
        exact hNone x hSpells hFinite

/-
  The columns are read in steps: both values first, and then
  it is asked whether the latency is finite. To complain
  about one that is not, its word is looked up once more,
  and there would be nothing to say about a word that is not
  there.
-/
def readColumnsInSteps?
    (schema : Schema)
    (place : LinePlace)
    (columns : List (List Char)) :
    Option (Except RecordError Record) :=
  match place.readColumn columns .callType
      schema.callTypeColumn readInt64? with
  | .error e => some (.error e)
  | .ok callType =>
      match place.readColumn columns .latency
          schema.latencyColumn Binary64.read? with
      | .error e => some (.error e)
      | .ok latency =>
          if latency.IsFinite then
            some (.ok { callType, latency })
          else
            columns[schema.latencyColumn]?.map fun word =>
              .error (.invalidValue place.file place.number
                .latency (String.ofList word))

/- The word is there, and the steps come to the same. -/
theorem readColumnsInSteps?_eq
    (schema : Schema)
    (place : LinePlace)
    (columns : List (List Char)) :
    schema.readColumnsInSteps? place columns =
      some (schema.readColumns place columns) := by
  unfold readColumnsInSteps? readColumns
  cases place.readColumn columns .callType
    schema.callTypeColumn readInt64? with
  | error e => rfl
  | ok callType =>
      unfold LinePlace.readColumn readFinite?
      cases columns[schema.latencyColumn]? with
      | none => rfl
      | some word =>
          cases hRead : Binary64.read? word with
          | none => simp [hRead]
          | some latency =>
              by_cases hFinite : latency.IsFinite
              · simp [hRead, Option.filter_some, hFinite]
              · simp [hRead, Option.filter_some, hFinite]

------------------------------------------------------------
-- Lines
------------------------------------------------------------

variable {line : String}

/- The line starts like a comment. -/
def IsComment (schema : Schema) (line : String) : Prop :=
  schema.commentMark.toList <+: line.toList

theorem isIgnored_eq_true_iff :
    schema.isIgnored line.toList = true ↔
      schema.IsComment line ∨ IsGap line.toList := by
  unfold isIgnored IsComment
  rw [Bool.or_eq_true, List.isPrefixOf_iff_prefix,
    allBlank_eq_true_iff]

/- A line with pieces is read by its columns if it is no
   comment. -/
theorem readLine_of_isCutInto
    (hData : ¬ (schema.IsComment line ∨ IsGap line.toList))
    (hCut : IsCutInto line.toList columns) :
    schema.readLine place line =
      (schema.readColumns place columns).map some := by
  rw [← isIgnored_eq_true_iff] at hData
  unfold readLine
  rw [if_neg hData, hCut.words_eq]
  cases schema.readColumns place columns <;> rfl

/-
  A line has one list of columns, and one that is a comment
  or blank has no record. The columns of any other line make
  a record if they are a row of the schema, and the first
  defect decides the error otherwise. A word is never looked
  up where there is none, and it does not matter which
  blanks stand around the words.
-/
structure ReadsRows
    (schema : Schema)
    (place : LinePlace)
    (line : String) : Prop where
  cut :
    ∃ columns,
      ∀ other,
        IsCutInto line.toList other ↔ other = columns
  ignores :
    schema.readLine place line = .ok none ↔
      schema.IsComment line ∨ IsGap line.toList
  reads :
    ¬ (schema.IsComment line ∨ IsGap line.toList) →
      ∀ columns,
        IsCutInto line.toList columns →
          ∀ record,
            schema.readLine place line = .ok (some record) ↔
              schema.IsRow columns record
  rejects :
    ¬ (schema.IsComment line ∨ IsGap line.toList) →
      ∀ columns,
        IsCutInto line.toList columns →
          ∀ e,
            schema.readLine place line = .error e ↔
              schema.IsRowDefect place columns e
  inRange :
    ∀ columns,
      IsCutInto line.toList columns →
        schema.readColumnsInSteps? place columns =
          some (schema.readColumns place columns)
  alike :
    ∀ other columns,
      ¬ schema.IsComment line →
        ¬ schema.IsComment other →
          IsCutInto line.toList columns →
            IsCutInto other.toList columns →
              schema.readLine place other =
                schema.readLine place line

/- Lines without a comment mark that have the same pieces
   are read alike. -/
theorem readLine_eq_of_isCutInto
    {other : String}
    (hLine : ¬ schema.IsComment line)
    (hOther : ¬ schema.IsComment other)
    (hCut : IsCutInto line.toList columns)
    (hOtherCut : IsCutInto other.toList columns) :
    schema.readLine place other =
      schema.readLine place line := by
  have hIgnored :
      schema.isIgnored other.toList =
        schema.isIgnored line.toList := by
    rw [Bool.eq_iff_iff, isIgnored_eq_true_iff,
      isIgnored_eq_true_iff, isGap_iff_words_eq_nil,
      isGap_iff_words_eq_nil, hCut.words_eq,
      hOtherCut.words_eq]
    simp [hLine, hOther]
  unfold readLine
  rw [hIgnored, hCut.words_eq, hOtherCut.words_eq]

/- Every line is read so, whatever the schema. -/
theorem readsRows
    (schema : Schema)
    (place : LinePlace)
    (line : String) :
    ReadsRows schema place line where
  cut :=
    ⟨words line.toList, fun _ => isCutInto_iff.trans eq_comm⟩
  ignores := by
    rw [← isIgnored_eq_true_iff]
    constructor
    · intro hRead
      by_contra hData
      unfold readLine at hRead
      rw [if_neg hData] at hRead
      split at hRead
      next => cases hRead
      next => cases hRead
    · exact fun hIgnored => if_pos hIgnored
  reads := by
    intro hData columns hCut record
    have hColumns :
        schema.readColumns place columns = .ok record ↔
          schema.HasColumns columns record :=
      readColumns_eq_ok_iff
    rw [readLine_of_isCutInto hData hCut,
      ← hasColumns_iff_isRow, ← hColumns]
    cases schema.readColumns place columns with
    | error e => simp [Except.map]
    | ok found => simp [Except.map]
  rejects := by
    intro hData columns hCut e
    rw [readLine_of_isCutInto hData hCut,
      ← readColumns_eq_error_iff]
    cases schema.readColumns place columns with
    | error found => simp [Except.map]
    | ok record => simp [Except.map]
  inRange := fun columns _ =>
    readColumnsInSteps?_eq schema place columns
  alike := fun _ _ => readLine_eq_of_isCutInto

/- Both columns may be the same one, and any blanks may stand
   around it. -/
example :
    ({ callTypeColumn := 1, latencyColumn := 1 } :
        Schema).readLine ⟨"trace", 4⟩ "a\u2003 +7\u00a0" =
      .ok (some ⟨7, .ofNat 7⟩) := by
  decide +kernel

end Schema

end LatencySweep
