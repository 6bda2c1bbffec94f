import LatencySweep.Proofs.Cdf.File
import LatencySweep.Proofs.Cdf.Samples
import LatencySweep.Proofs.FileTree.Write
import LatencySweep.Text.Lines

/-
  Distributions that are written, read and written again.

  A distribution without a NaN is canonical, whether it was
  made of samples or read from a file. So its file gives it
  back, and the next file has the same bytes.

  Main declarations:
    * `Cdf.Obtained`
    * `Cdf.isCanonical_of_obtained`
    * `Cdf.IsStoredAt`
    * `Cdf.stored_of_save`
-/

namespace LatencySweep

namespace Cdf

variable {cdf : Cdf} {path : Path} {tree next : FileTree}

------------------------------------------------------------
-- Distributions without NaNs
------------------------------------------------------------

/- Made of samples, or read from a file. -/
def Obtained (cdf : Cdf) : Prop :=
  (∃ samples, ofSamples? samples = some cdf) ∨
    ∃ path tree, ofFile path tree = .ok cdf

/- All values and steps are numbers. -/
structure HasNumbers (cdf : Cdf) : Prop where
  x : ∀ value ∈ cdf.x, ¬ value.IsNaN
  y : ∀ step ∈ cdf.y, ¬ step.IsNaN

/- There is a step for each value. -/
theorem Obtained.length_eq (hObtained : cdf.Obtained) :
    cdf.y.length = cdf.x.length := by
  rcases hObtained with
    ⟨samples, hSamples⟩ | ⟨path, tree, hRead⟩
  · rcases ofSamples?_eq_some_iff.mp hSamples with
      ⟨-, hX, hY⟩
    rw [hX, hY, length_ladder, (sorted_perm samples).length_eq]
  · rcases ofFile_eq_ok_iff.mp hRead with ⟨content, -, hRows⟩
    exact hRows.length_eq

/- What is obtained without a NaN is canonical. -/
theorem isCanonical_of_obtained
    (hObtained : cdf.Obtained)
    (hNumbers : cdf.HasNumbers) :
    cdf.IsCanonical where
  length_y := hObtained.length_eq
  x := fun value hMem =>
    Binary64.isCanonical_of_not_isNaN (hNumbers.x value hMem)
  y := fun step hMem =>
    Binary64.isCanonical_of_not_isNaN (hNumbers.y step hMem)

------------------------------------------------------------
-- The File of a Distribution
------------------------------------------------------------

/- The line of a row, without its ending. -/
def lineOf (values : List Binary64) : Bytes :=
  [Table.tab].intercalate (fieldsOf values)

theorem isPlain_of_mem_fieldsOf
    {values : List Binary64}
    {field : Bytes}
    (hField : field ∈ fieldsOf values) :
    Table.IsPlain field := by
  rcases mem_fieldsOf.mp hField with ⟨value, -, rfl⟩
  exact value.isPlain_toText

/- A table has two lines, for the values and the steps. -/
theorem ofText_toTable (cdf : Cdf) :
    Bytes.ofText cdf.toTable =
      lineOf cdf.x ++ Bytes.lineFeed ::
        (lineOf cdf.y ++ [Bytes.lineFeed]) := by
  unfold toTable
  rw [Table.ofText_ofRows]
  change
    lineOf cdf.x ++ [Bytes.lineFeed] ++
        (lineOf cdf.y ++ [Bytes.lineFeed] ++ []) = _
  rw [List.append_nil, List.append_assoc]
  rfl

/- A line ends once and has a field for each value. -/
theorem splitOn_lineOf
    {values : List Binary64}
    (hSome : values ≠ []) :
    Bytes.lineFeed ∉ lineOf values ∧
      ((lineOf values).splitOn Table.tab).length =
        values.length := by
  have hFields : fieldsOf values ≠ [] := by
    intro hNil
    apply hSome
    rw [← List.length_eq_zero_iff, ← length_fieldsOf, hNil]
    rfl
  constructor
  · exact
      Table.lineFeed_notMem_row
        fun field hField => isPlain_of_mem_fieldsOf hField
  · rw [lineOf,
      Table.splitOn_row hFields
        fun field hField => isPlain_of_mem_fieldsOf hField,
      length_fieldsOf]

/- The content is made of two lines, and tabs divide either
   of them into so many fields. -/
def HasTwoLines (content : Bytes) (fields : Nat) : Prop :=
  ∃ first second,
    content =
        first ++ Bytes.lineFeed ::
          (second ++ [Bytes.lineFeed]) ∧
      (Bytes.lineFeed ∉ first ∧
        (first.splitOn Table.tab).length = fields) ∧
      (Bytes.lineFeed ∉ second ∧
        (second.splitOn Table.tab).length = fields)

/-
  The file at the path is the one of the distribution. The
  distribution is read from it, and what is read from it is
  written in the same bytes, there or elsewhere.
-/
structure IsStoredAt
    (cdf : Cdf)
    (path : Path)
    (tree : FileTree) : Prop where
  content :
    ∃ content,
      tree.read path = .ok content ∧
        HasTwoLines content cdf.size
  reads : ofFile path tree = .ok cdf
  saves :
    ∀ again,
      ofFile path tree = .ok again →
        ∃ next, again.save path tree = .ok next
  same :
    ∀ again place other next,
      ofFile path tree = .ok again →
        again.save place other = .ok next →
          next.read place = tree.read path

/- What is saved is read as its table. -/
theorem read_of_save
    (hSave : cdf.save path tree = .ok next) :
    tree.write path (Bytes.ofText cdf.toTable) = .ok next ∧
      next.read path = .ok (Bytes.ofText cdf.toTable) := by
  unfold save at hSave
  split at hSave
  next => cases hSave
  next written hWrite =>
    cases hSave
    exact ⟨hWrite, (FileTree.writes_of_write hWrite).read⟩

theorem isStoredAt_of_save
    (hCanonical : cdf.IsCanonical)
    (hSave : cdf.save path tree = .ok next) :
    cdf.IsStoredAt path next := by
  rcases read_of_save hSave with ⟨hWrite, hRead⟩
  have hReads : ofFile path next = .ok cdf := by
    unfold ofFile
    rw [hRead]
    exact ofTable_toTable hCanonical path
  have hSame
      {again : Cdf}
      (hAgain : ofFile path next = .ok again) :
      again = cdf := by
    rw [hReads] at hAgain
    cases hAgain
    rfl
  constructor
  case content =>
    have hSecond := splitOn_lineOf hCanonical.y_ne_nil
    rw [hCanonical.length_y] at hSecond
    exact
      ⟨_, hRead, lineOf cdf.x, lineOf cdf.y,
        cdf.ofText_toTable, splitOn_lineOf cdf.x_ne_nil,
        hSecond⟩
  case reads => exact hReads
  case saves =>
    intro again hAgain
    cases hSame hAgain
    rcases FileTree.write_again hWrite
        (Bytes.ofText cdf.toTable) with
      ⟨final, hFinal⟩
    refine ⟨final, ?_⟩
    unfold save
    rw [hFinal]
  case same =>
    intro again place other last hAgain hLast
    cases hSame hAgain
    rw [hRead]
    exact (read_of_save hLast).2

/-
  Where files can be written at all, a distribution without
  a NaN is stored by saving it.
-/
theorem stored_of_save
    (hObtained : cdf.Obtained)
    (hNumbers : cdf.HasNumbers)
    (path : Path)
    (tree : FileTree) :
    (∃ cause,
      (∀ content, tree.write path content = .error cause) ∧
        cdf.save path tree = .error (.table (.file cause))) ∨
      ∃ next,
        cdf.save path tree = .ok next ∧
          cdf.IsStoredAt path next := by
  have hCanonical := isCanonical_of_obtained hObtained hNumbers
  cases hWrite :
      tree.write path (Bytes.ofText cdf.toTable) with
  | error cause =>
      refine Or.inl ⟨cause, FileTree.write_error hWrite, ?_⟩
      unfold save
      rw [hWrite]
  | ok next =>
      have hSave : cdf.save path tree = .ok next := by
        unfold save
        rw [hWrite]
      have hStored := isStoredAt_of_save hCanonical hSave
      exact Or.inr ⟨next, hSave, hStored⟩

/- Both zeros and infinities, the least float above zero and
   a large one. -/
def extremeSamples : List Binary64 :=
  [ .infinity false, .zero false, .ofUnits false 1 1,
    .ofNat (tenTo 300), .zero true, .infinity true ]

theorem stored_of_save_extreme :
    ∃ cdf next,
      ofSamples? extremeSamples = some cdf ∧
        cdf.HasNumbers ∧
        cdf.save ⟨"cdf.txt"⟩ .empty = .ok next ∧
        cdf.IsStoredAt ⟨"cdf.txt"⟩ next := by
  have hSome : extremeSamples ≠ [] := List.cons_ne_nil _ _
  let cdf : Cdf :=
    { x := sorted extremeSamples
      y := ladder extremeSamples.length
      x_ne_nil := sorted_ne_nil hSome }
  have hCdf : ofSamples? extremeSamples = some cdf :=
    ofSamples?_eq_some_iff.mpr ⟨hSome, rfl, rfl⟩
  have hSamples :
      ∀ sample ∈ extremeSamples, ¬ sample.IsNaN := by
    decide +kernel
  have hSteps :
      ∀ step ∈ ladder extremeSamples.length, ¬ step.IsNaN := by
    decide +kernel
  have hNumbers : cdf.HasNumbers :=
    { x := fun value hMem =>
        hSamples value
          ((sorted_perm extremeSamples).mem_iff.mp hMem)
      y := hSteps }
  have hWrite :
      FileTree.empty.write ⟨"cdf.txt"⟩ [] =
        .ok
          (FileTree.empty.put ["work", "cdf.txt"]
            (.file [])) := by
    decide +kernel
  rcases stored_of_save (Or.inl ⟨_, hCdf⟩) hNumbers
      ⟨"cdf.txt"⟩ .empty with
    ⟨cause, hFails, -⟩ | ⟨next, hSave, hStored⟩
  · rw [hFails] at hWrite
    cases hWrite
  · exact ⟨cdf, next, hCdf, hNumbers, hSave, hStored⟩

end Cdf

end LatencySweep
