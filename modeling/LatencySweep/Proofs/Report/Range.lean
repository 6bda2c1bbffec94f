import LatencySweep.Proofs.Cdf.Distribution
import LatencySweep.Proofs.Cdf.File
import LatencySweep.Proofs.Cdf.Form
import LatencySweep.Proofs.Json.Nulls
import LatencySweep.Proofs.Number.Range
import LatencySweep.Proofs.Report.Meaning

/-
  When the numbers of a report are finite.

  A trace is read only if its latencies are finite in
  seconds. In milliseconds, those from some size on are
  infinite nevertheless. A cohort without such a latency has
  finite values only. One with such a latency has an
  infinite value, which stands at an end of its curve, in
  its file and, as a null, in the figure. Steps are always
  finite.

  Main declarations:
    * `Record.IsInRange`
    * `Record.isFinite_latencyMs_iff`
    * `Cdf.isFinite_ends_iff`
    * `Cdf.ShowsInfinity`
    * `Figure.saysNull_iff`
    * `ShowsRange`
    * `Schema.showsRange_of_readRecords`
-/

namespace LatencySweep

------------------------------------------------------------
-- Latencies
------------------------------------------------------------

namespace Record

variable {record : Record}

/- The latency in milliseconds, not rounded, is below the
   limit of floats. -/
def IsInRange (record : Record) : Prop :=
  |record.latency.toRat| * 1000 < Binary64.limit

theorem isFinite_thousand : (Binary64.ofNat 1000).IsFinite :=
  (Binary64.isNearest_ofNat (by decide)).1

/- A finite latency stays finite just in this range. -/
theorem isFinite_latencyMs_iff
    (hFinite : record.latency.IsFinite) :
    record.latencyMs.IsFinite ↔ record.IsInRange := by
  have hThousand : (Binary64.ofNat 1000).toRat = 1000 :=
    Binary64.toRat_ofNat (by decide)
  unfold latencyMs IsInRange
  rw [Binary64.isFinite_mul_iff hFinite isFinite_thousand,
    hThousand, abs_of_pos (by norm_num : (0 : ℚ) < 1000)]

/- Out of range, it becomes infinite and keeps its sign. -/
theorem latencyMs_eq_infinity
    (hFinite : record.latency.IsFinite)
    (hOut : ¬ record.IsInRange) :
    record.latencyMs = .infinity record.latency.negative := by
  rw [← isFinite_latencyMs_iff hFinite] at hOut
  unfold latencyMs at hOut ⊢
  rw [Binary64.mul_eq_infinity hFinite isFinite_thousand hOut,
    Binary64.negative_ofNat, Bool.bne_false]

/- So it never becomes a NaN. -/
theorem not_isNaN_latencyMs
    (hFinite : record.latency.IsFinite) :
    ¬ record.latencyMs.IsNaN := by
  unfold latencyMs
  rw [Binary64.mul_eq_ofUnits hFinite isFinite_thousand]
  exact Binary64.not_isNaN_ofUnits _ _ _

end Record

/- All latencies of the cohort are in range. -/
def Cohort.IsInRange
    (cohort : Cohort)
    (records : List Record) : Prop :=
  ∀ record ∈ records,
    cohort.Covers record.callType → record.IsInRange

/- The samples of a cohort are finite just if its latencies
   are in range. -/
theorem Cohort.isFinite_samples_iff
    {cohort : Cohort}
    {records : List Record}
    (hFinite : ∀ record ∈ records, record.latency.IsFinite) :
    (∀ sample ∈ cohort.samples records, sample.IsFinite) ↔
      cohort.IsInRange records := by
  rw [Cohort.samples_eq, List.forall_mem_map]
  constructor
  · intro hSamples record hMem hCovers
    rw [← Record.isFinite_latencyMs_iff (hFinite record hMem)]
    apply hSamples
    exact List.mem_filter.mpr ⟨hMem, decide_eq_true hCovers⟩
  · intro hRange record hMem
    rcases List.mem_filter.mp hMem with ⟨hIn, hCovers⟩
    rw [Record.isFinite_latencyMs_iff (hFinite record hIn)]
    exact hRange record hIn (of_decide_eq_true hCovers)

------------------------------------------------------------
-- Curves
------------------------------------------------------------

/- What lies between two finite floats is finite. -/
theorem Binary64.IsFinite.of_between
    {low x high : Binary64}
    (hLow : low.IsFinite)
    (hHigh : high.IsFinite)
    (hAbove : low.totalLe x = true)
    (hBelow : x.totalLe high = true) :
    x.IsFinite := by
  unfold totalLe orderKey at hAbove hBelow
  rw [decide_eq_true_eq] at hAbove hBelow
  unfold IsFinite at *
  cases hSign : x.negative with
  | true =>
      rw [hSign, if_pos rfl] at hAbove
      split at hAbove
      next => omega
      next => omega
  | false =>
      rw [hSign, if_neg Bool.false_ne_true] at hBelow
      split at hBelow
      next => omega
      next => omega

namespace Cdf

variable {cdf : Cdf} {samples : List Binary64}

/- The ends of sorted values tell whether all are finite. -/
theorem isFinite_ends_iff (hOrder : InOrder cdf.x) :
    cdf.min.IsFinite ∧ cdf.max.IsFinite ↔
      ∀ value ∈ cdf.x, value.IsFinite := by
  constructor
  · rintro ⟨hMin, hMax⟩ value hMem
    rcases spans_of_inOrder hOrder value hMem with
      ⟨hAbove, hBelow⟩
    exact hMin.of_between hMax hAbove hBelow
  · intro hAll
    exact ⟨hAll _ cdf.min_mem, hAll _ cdf.max_mem⟩

/- The steps of a ladder are finite. -/
theorem isFinite_of_mem_ladder
    {whole : ℕ}
    (hWord : whole < twoTo 64)
    {step : Binary64}
    (hStep : step ∈ ladder whole) :
    step.IsFinite := by
  rcases List.mem_map.mp hStep with ⟨place, hPlace, rfl⟩
  rw [List.mem_range] at hPlace
  exact
    (isShare_div (by omega) hPlace hWord).rounded.isFinite

------------------------------------------------------------
-- Files
------------------------------------------------------------

/- A field of the file stands for no finite number. -/
def ShowsInfinity (cdf : Cdf) : Prop :=
  ∃ row ∈ Table.rows (Bytes.ofText cdf.toTable),
    ∃ field ∈ row,
      field = Bytes.ofText "inf" ∨
        field = Bytes.ofText "-inf"

/- The text of a number tells whether it is finite. -/
theorem ofText_toText_iff
    {value : Binary64}
    (hNumber : ¬ value.IsNaN) :
    (Bytes.ofText value.toText = Bytes.ofText "inf" ∨
        Bytes.ofText value.toText = Bytes.ofText "-inf") ↔
      ¬ value.IsFinite := by
  have hRead :=
    Binary64.read?_toText
      (Binary64.isCanonical_of_not_isNaN hNumber)
  have hText {first second : String}
      (hSame : Bytes.ofText first = Bytes.ofText second) :
      first = second := by
    have hBack := Bytes.toText?_ofText first
    rw [hSame, Bytes.toText?_ofText] at hBack
    exact (Option.some.inj hBack).symm
  constructor
  · rintro (hSame | hSame) hFinite
    · rw [hText hSame] at hRead
      rw [← Option.some.inj hRead] at hFinite
      exact absurd hFinite (by decide)
    · rw [hText hSame] at hRead
      rw [← Option.some.inj hRead] at hFinite
      exact absurd hFinite (by decide)
  · intro hInfinite
    have hSame : value = .infinity value.negative :=
      Binary64.eq_of_magnitude rfl
        (Nat.le_antisymm (Nat.not_lt.mp hNumber)
          (Nat.not_lt.mp hInfinite))
    rw [hSame]
    cases value.negative with
    | true => exact Or.inr rfl
    | false => exact Or.inl rfl

/- A file shows an infinity if a value is one. -/
theorem showsInfinity_iff
    (hX : ∀ value ∈ cdf.x, ¬ value.IsNaN)
    (hY : ∀ step ∈ cdf.y, step.IsFinite)
    (hLength : cdf.y.length = cdf.x.length) :
    cdf.ShowsInfinity ↔
      ∃ value ∈ cdf.x, ¬ value.IsFinite := by
  have hRows :
      Table.rows (Bytes.ofText cdf.toTable) =
        [fieldsOf cdf.x, fieldsOf cdf.y] := by
    apply rows_toTable
    exact
      { length_y := hLength
        x := fun value hMem =>
          Binary64.isCanonical_of_not_isNaN (hX value hMem)
        y := fun step hMem =>
          Binary64.isCanonical_of_not_isNaN
            (hY step hMem).not_isNaN }
  unfold ShowsInfinity
  rw [hRows]
  constructor
  · rintro ⟨row, hRow, field, hField, hText⟩
    rcases List.mem_cons.mp hRow with rfl | hLast
    · rcases mem_fieldsOf.mp hField with ⟨value, hMem, rfl⟩
      refine ⟨value, hMem, ?_⟩
      exact (ofText_toText_iff (hX value hMem)).mp hText
    · rw [List.mem_singleton.mp hLast] at hField
      rcases mem_fieldsOf.mp hField with ⟨step, hMem, rfl⟩
      have hFinite := hY step hMem
      exact
        absurd hFinite
          ((ofText_toText_iff hFinite.not_isNaN).mp hText)
  · rintro ⟨value, hMem, hInfinite⟩
    exact
      ⟨_, List.mem_cons_self, _,
        mem_fieldsOf.mpr ⟨value, hMem, rfl⟩,
        (ofText_toText_iff (hX value hMem)).mpr hInfinite⟩

end Cdf

------------------------------------------------------------
-- Figures
------------------------------------------------------------

namespace Figure

/- The words of a figure. -/
def words : List String :=
  [ "type", "scatter", "name", "mode", "lines", "x", "y",
    "line", "color", "shape", "hv", "dash", "title", "text",
    "range", "showgrid", "xaxis", "t (ms)", "yaxis",
    "Probability that latency <= t", "legend", "xanchor",
    "right", "yanchor", "bottom", "data", "layout", "config" ]

theorem not_saysNull_of_mem_words
    {word : String}
    (hWord : word ∈ words) :
    ¬ Json.SaysNull (Json.stringText word) := by
  have hAll :
      ∀ word ∈ words,
        ¬ Json.SaysNull (Json.stringText word) := by
    decide +kernel
  exact hAll word hWord

theorem not_saysNull_cohort (cohort : Cohort) :
    ¬ Json.SaysNull (Json.stringText cohort.name) ∧
      ¬ Json.SaysNull
        (Json.stringText (strokeOf cohort).color) ∧
      ¬ Json.SaysNull
        (Json.stringText (strokeOf cohort).dash) := by
  cases cohort <;> decide +kernel

/- A curve has a null just where a number is not finite. -/
theorem hasNull_curveJson (cohort : Cohort) (cdf : Cdf) :
    (curveJson cohort cdf).HasNull ↔
      ∃ value ∈ cdf.x ++ cdf.y, ¬ value.IsFinite := by
  have hCohort := not_saysNull_cohort cohort
  simp (disch := decide) [curveJson,
    not_saysNull_of_mem_words, hCohort, or_and_right,
    exists_or]

theorem hasNull_layoutJson (xMax : Binary64) :
    (layoutJson xMax).HasNull ↔ ¬ xMax.IsFinite := by
  have hZero : (Binary64.ofNat 0).IsFinite := by
    decide +kernel
  have hOne : (Binary64.ofNat 1).IsFinite := by
    decide +kernel
  simp (disch := decide) [layoutJson, axisJson, zeroJson,
    oneJson, not_saysNull_of_mem_words, hZero, hOne]

/- The description of a figure has a null just where a
   number is not finite. -/
theorem saysNull_iff (figure : Figure) :
    Json.SaysNull figure.toJson.compact.toList ↔
      ¬ figure.xMax.IsFinite ∨
        ∃ curve ∈ figure.curves,
          ∃ value ∈ curve.2.x ++ curve.2.y,
            ¬ value.IsFinite := by
  unfold Json.compact toJson
  rw [String.toList_ofList, Json.saysNull_write_iff]
  simp (disch := decide) [not_saysNull_of_mem_words,
    hasNull_curveJson, hasNull_layoutJson, or_comm]

end Figure

------------------------------------------------------------
-- Reports
------------------------------------------------------------

/-
  All that is shown of a distribution is finite just under
  a condition: the values, the ends in a summary, and the
  fields of its file. The steps are finite anyway.
-/
structure Cdf.IsFiniteIff
    (cdf : Cdf)
    (condition : Prop) : Prop where
  values :
    (∀ value ∈ cdf.x, value.IsFinite) ↔ condition
  summary :
    ∀ cohort,
      (cdf.summary cohort).min.IsFinite ∧
          (cdf.summary cohort).max.IsFinite ↔
        condition
  file : ¬ cdf.ShowsInfinity ↔ condition
  steps : ∀ step ∈ cdf.y, step.IsFinite

/-
  Samples are finite if their latencies are in range, and
  infinite otherwise. What is made of them is finite under
  the same condition.
-/
structure ShowsRange (records : List Record) : Prop where
  finite :
    ∀ record ∈ records,
      record.latencyMs.IsFinite ↔ record.IsInRange
  infinite :
    ∀ record ∈ records,
      ¬ record.IsInRange →
        record.latencyMs = .infinity record.latency.negative
  distribution :
    ∀ (cohort : Cohort) (cdf : Cdf),
      Cdf.ofSamples? (cohort.samples records) = some cdf →
        cdf.IsFiniteIff (cohort.IsInRange records)
  figure :
    ∀ (cohorts : List Cohort) (xMax : Binary64),
      ¬ Json.SaysNull
            (Figure.toJson
              { curves := curves records cohorts
                xMax }).compact.toList ↔
        xMax.IsFinite ∧
          ∀ cohort ∈ cohorts, cohort.IsInRange records

variable {records : List Record}

/- A curve of finite latencies is finite just in range. -/
theorem Cohort.isFiniteIff_of_ofSamples?
    (hFinite : ∀ record ∈ records, record.latency.IsFinite)
    (hWord : records.length < twoTo 64)
    {cohort : Cohort}
    {cdf : Cdf}
    (hCdf :
      Cdf.ofSamples? (cohort.samples records) = some cdf) :
    cdf.IsFiniteIff (cohort.IsInRange records) := by
  rcases Cdf.ofSamples?_eq_some_iff.mp hCdf with ⟨-, hX, hY⟩
  have hPerm : cdf.x.Perm (cohort.samples records) :=
    hX ▸ Cdf.sorted_perm _
  have hOrder : Cdf.InOrder cdf.x := hX ▸ Cdf.pairwise_sorted _
  have hFew : (cohort.samples records).length < twoTo 64 := by
    rw [samples_eq, List.length_map]
    exact (List.length_filter_le _ _).trans_lt hWord
  have hSteps : ∀ step ∈ cdf.y, step.IsFinite := by
    rw [hY]
    exact fun step => Cdf.isFinite_of_mem_ladder hFew
  have hValues :
      (∀ value ∈ cdf.x, value.IsFinite) ↔
        cohort.IsInRange records := by
    rw [← isFinite_samples_iff hFinite]
    exact forall_congr' fun value => by rw [hPerm.mem_iff]
  have hNumbers : ∀ value ∈ cdf.x, ¬ value.IsNaN := by
    intro value hMem
    rw [hPerm.mem_iff, samples_eq] at hMem
    rcases List.mem_map.mp hMem with ⟨record, hRecord, rfl⟩
    exact
      Record.not_isNaN_latencyMs
        (hFinite record (List.mem_filter.mp hRecord).1)
  constructor
  case values => exact hValues
  case summary =>
    intro other
    rw [← hValues]
    exact Cdf.isFinite_ends_iff hOrder
  case file =>
    have hLength : cdf.y.length = cdf.x.length := by
      rw [hY, Cdf.length_ladder, hPerm.length_eq]
    rw [Cdf.showsInfinity_iff hNumbers hSteps hLength,
      ← hValues]
    push Not
    rfl
  case steps => exact hSteps

/- A figure has no null if what it shows is in range. -/
theorem not_saysNull_curves_iff
    (hFinite : ∀ record ∈ records, record.latency.IsFinite)
    (hWord : records.length < twoTo 64)
    (cohorts : List Cohort)
    (xMax : Binary64) :
    ¬ Json.SaysNull
          (Figure.toJson
            { curves := curves records cohorts
              xMax }).compact.toList ↔
      xMax.IsFinite ∧
        ∀ cohort ∈ cohorts, cohort.IsInRange records := by
  have hCurve
      {cohort : Cohort}
      {cdf : Cdf}
      (hCdf :
        Cdf.ofSamples? (cohort.samples records) = some cdf) :=
    Cohort.isFiniteIff_of_ofSamples? hFinite hWord hCdf
  rw [Figure.saysNull_iff, not_or, not_not]
  refine and_congr_right' ⟨?_, ?_⟩
  · intro hNone cohort hMem record hRecord hCovers
    rcases curve?_cases records cohort with
      ⟨hEmpty, -⟩ | ⟨-, cdf, -, hCdf⟩
    · exact absurd ⟨record, hRecord, hCovers⟩ hEmpty
    · refine (hCurve hCdf).values.mp ?_ record hRecord hCovers
      intro value hValue
      by_contra hInfinite
      exact
        hNone
          ⟨(cohort, cdf), mem_curves_iff.mpr ⟨hMem, hCdf⟩,
            value, List.mem_append_left _ hValue, hInfinite⟩
  · rintro hRange ⟨curve, hShown, value, hValue, hInfinite⟩
    rcases mem_curves_iff.mp hShown with ⟨hMem, hCdf⟩
    apply hInfinite
    rcases List.mem_append.mp hValue with hX | hY
    · exact
        (hCurve hCdf).values.mpr (hRange _ hMem) value hX
    · exact (hCurve hCdf).steps value hY

/-
  The records of a trace are finite in seconds, and what is
  shown of them is finite if they are in range.
-/
theorem Schema.showsRange_of_readRecords
    {schema : Schema}
    {file : String}
    {content : Bytes}
    (hRead :
      schema.readRecords file content = .ok records)
    (hWord : records.length < twoTo 64) :
    ShowsRange records := by
  have hFinite :
      ∀ record ∈ records, record.latency.IsFinite :=
    fun record => isFinite_of_readLines hRead
  constructor
  case finite =>
    intro record hMem
    exact Record.isFinite_latencyMs_iff (hFinite record hMem)
  case infinite =>
    intro record hMem
    exact Record.latencyMs_eq_infinity (hFinite record hMem)
  case distribution =>
    intro cohort cdf
    exact Cohort.isFiniteIff_of_ofSamples? hFinite hWord
  case figure =>
    exact not_saysNull_curves_iff hFinite hWord

/- The greatest latency in range that is written with these
   digits, and one that is out of range. -/
def wideTrace : Bytes :=
  Bytes.ofText
    "0 0 0 1 1.797693134862315e305\n0 0 0 2 -1e306\n"

def wideRecords : List Record :=
  [ { callType := 1
      latency :=
        .ofRatio false (1797693134862315 * tenTo 290) 1 },
    { callType := 2
      latency := .ofRatio true (tenTo 306) 1 } ]

theorem showsRange_of_readRecords_wide :
    ({} : Schema).readRecords "t.dat" wideTrace =
        .ok wideRecords ∧
      wideRecords.length < twoTo 64 ∧
        ShowsRange wideRecords := by
  have hRead :
      ({} : Schema).readRecords "t.dat" wideTrace =
        .ok wideRecords := by
    decide +kernel
  have hWord : wideRecords.length < twoTo 64 := by decide
  exact
    ⟨hRead, hWord,
      Schema.showsRange_of_readRecords hRead hWord⟩

/- One call on the network with a huge latency. -/
def hugeTrace : Bytes :=
  Bytes.ofText "0 0 0 1 1e306\n"

def huge : Record :=
  { callType := 1, latency := .ofNat (tenTo 306) }

/- It is read, but nothing that is made of it is finite. -/
theorem hugeTrace_is_read :
    ({} : Schema).readRecords "test" hugeTrace =
        .ok [huge] ∧
      huge.latencyMs = .infinity false ∧
      (∃ cdf,
        Cdf.ofSamples? (Cohort.onNetwork.samples [huge]) =
            some cdf ∧
          ¬ cdf.min.IsFinite ∧ ¬ cdf.max.IsFinite ∧
            cdf.ShowsInfinity) ∧
      Json.SaysNull
        (Figure.toJson
          { curves := curves [huge] Cohort.all
            xMax := Figure.defaultXMax }).compact.toList := by
  have hRead :
      ({} : Schema).readRecords "test" hugeTrace =
        .ok [huge] := by
    decide +kernel
  have hSample : huge.latencyMs = .infinity false := by
    decide +kernel
  have hFinite :
      ∀ record ∈ [huge], record.latency.IsFinite := by
    decide +kernel
  have hWord : [huge].length < twoTo 64 := by decide
  have hOut : ¬ Cohort.onNetwork.IsInRange [huge] := by
    rw [← Cohort.isFinite_samples_iff hFinite]
    intro hAll
    have hIn := hAll huge.latencyMs List.mem_cons_self
    rw [hSample] at hIn
    exact absurd hIn (by decide)
  rcases curve?_cases [huge] .onNetwork with
    ⟨hNone, -⟩ | ⟨-, cdf, -, hCdf⟩
  · exact absurd ⟨huge, List.mem_cons_self, rfl⟩ hNone
  have hAll : ∀ value ∈ cdf.x, ¬ value.IsFinite := by
    intro value hMem
    rw [(Cdf.ofSamples?_eq_some_iff.mp hCdf).2.1,
      (Cdf.sorted_perm _).mem_iff] at hMem
    rw [List.mem_singleton.mp hMem, hSample]
    decide
  have hShown :=
    Cohort.isFiniteIff_of_ofSamples? hFinite hWord hCdf
  have hFile : cdf.ShowsInfinity := by
    by_contra hNone
    exact hOut (hShown.file.mp hNone)
  refine
    ⟨hRead, hSample,
      ⟨cdf, hCdf, hAll _ cdf.min_mem, hAll _ cdf.max_mem,
        hFile⟩, ?_⟩
  by_contra hNone
  rw [not_saysNull_curves_iff hFinite hWord] at hNone
  exact hOut (hNone.2 .onNetwork (by decide))

end LatencySweep
