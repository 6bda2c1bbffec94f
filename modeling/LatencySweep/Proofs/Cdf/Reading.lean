import LatencySweep.Cdf.File
import Mathlib.Data.List.Forall2

/-
  Which tables are read as distributions.

  Fields are read one by one, and the first one that cannot
  be read ends the reading. So there is a result just when
  all of them can be read, in two rows of one length. What
  the numbers are does not matter to the reader.

  Main declarations:
    * `Cdf.Reads`
    * `Cdf.HoldsRows`
    * `Cdf.HoldsRows.ne_nil`
    * `Cdf.readRows_eq_pair_iff`
    * `Cdf.ofTable_eq_ok_iff`
    * `Cdf.ofFile_eq_ok_iff`
-/

namespace LatencySweep

------------------------------------------------------------
-- Rows Have Fields
------------------------------------------------------------

namespace Table

/- The field that is being read belongs to its row, so no
   row is empty. -/
theorem ne_nil_of_mem_rowsFrom
    {position : Position}
    {fields row : List Bytes}
    {field rest : Bytes}
    (hRow : row ∈ rowsFrom position fields field rest) :
    row ≠ [] := by
  fun_induction rowsFrom position fields field rest with
  | case1 => cases hRow
  | case2 =>
      rw [List.mem_singleton.mp hRow]
      exact List.append_ne_nil_of_right_ne_nil _ (by simp)
  | case3 _ _ _ _ _ _ _ ih => exact ih hRow
  | case4 _ _ _ _ _ _ _ ih => exact ih hRow
  | case5 _ _ _ _ _ _ ih => exact ih hRow
  | case6 _ _ _ _ _ _ ih =>
      rcases List.mem_cons.mp hRow with rfl | hLater
      · exact List.append_ne_nil_of_right_ne_nil _ (by simp)
      · exact ih hLater

theorem ne_nil_of_mem_rows
    {content : Bytes}
    {row : List Bytes}
    (hRow : row ∈ rows content) :
    row ≠ [] :=
  ne_nil_of_mem_rowsFrom hRow

end Table

namespace Cdf

variable {path : Path} {content : Bytes} {cdf : Cdf}
variable {x y : List Binary64}

------------------------------------------------------------
-- Rows of Numbers
------------------------------------------------------------

/- The field is text and stands for the number. -/
def ReadsField (field : Bytes) (value : Binary64) : Prop :=
  ∃ text,
    Bytes.toText? field = some text ∧
      Binary64.read? text.toList = some value

/- The fields of a row stand for the numbers. -/
def Reads
    (row : List Bytes)
    (values : List Binary64) : Prop :=
  List.Forall₂ ReadsField row values

theorem readFields_cons_eq_ok_iff
    {field : Bytes}
    {row : List Bytes}
    {texts : List String} :
    readFields (field :: row) = .ok texts ↔
      ∃ text rest,
        Bytes.toText? field = some text ∧
          readFields row = .ok rest ∧ texts = text :: rest := by
  rw [readFields]
  cases Bytes.toText? field with
  | none => simp
  | some text =>
      cases readFields row with
      | error cause => simp
      | ok rest => simp [@eq_comm _ texts]

theorem readNumbers_cons_eq_ok_iff
    {text : String}
    {texts : List String}
    {values : List Binary64} :
    readNumbers (text :: texts) = .ok values ↔
      ∃ value rest,
        Binary64.read? text.toList = some value ∧
          readNumbers texts = .ok rest ∧
          values = value :: rest := by
  rw [readNumbers]
  cases Binary64.read? text.toList with
  | none => simp
  | some value =>
      cases readNumbers texts with
      | error defect => simp
      | ok rest => simp [@eq_comm _ values]

/- Both stages of reading a row succeed just when all of its
   fields stand for numbers. -/
theorem reads_iff
    {row : List Bytes}
    {values : List Binary64} :
    Reads row values ↔
      ∃ texts,
        readFields row = .ok texts ∧
          readNumbers texts = .ok values := by
  unfold Reads
  induction row generalizing values with
  | nil =>
      rw [List.forall₂_nil_left_iff]
      constructor
      · rintro rfl
        exact ⟨[], rfl, rfl⟩
      · rintro ⟨texts, hTexts, hNumbers⟩
        cases hTexts
        cases hNumbers
        rfl
  | cons field row ih =>
      rw [List.forall₂_cons_left_iff]
      constructor
      · rintro
          ⟨value, rest, ⟨text, hText, hValue⟩, hRest, rfl⟩
        rcases ih.mp hRest with ⟨texts, hTexts, hNumbers⟩
        refine ⟨text :: texts, ?_, ?_⟩
        · exact
            readFields_cons_eq_ok_iff.mpr
              ⟨text, texts, hText, hTexts, rfl⟩
        · exact
            readNumbers_cons_eq_ok_iff.mpr
              ⟨value, rest, hValue, hNumbers, rfl⟩
      · rintro ⟨texts, hTexts, hNumbers⟩
        rcases readFields_cons_eq_ok_iff.mp hTexts with
          ⟨text, others, hText, hOthers, rfl⟩
        rcases readNumbers_cons_eq_ok_iff.mp hNumbers with
          ⟨value, rest, hValue, hRest, rfl⟩
        exact
          ⟨value, rest, ⟨text, hText, hValue⟩,
            ih.mpr ⟨others, hOthers, hRest⟩, rfl⟩

/- A row is read just when it has the right width and all of
   its fields stand for numbers. -/
theorem readRow_eq_ok_iff
    {width : Nat}
    {row : List Bytes}
    {values : List Binary64} :
    readRow path width row = .ok values ↔
      row.length = width ∧ Reads row values := by
  rw [reads_iff]
  unfold readRow
  by_cases hWidth : row.length = width
  · rw [if_neg (not_not.mpr hWidth)]
    cases readFields row with
    | error cause => simp
    | ok texts =>
        cases hNumbers : readNumbers texts with
        | error defect => simp [hNumbers]
        | ok numbers => simp [hNumbers, hWidth]
  · rw [if_pos hWidth]
    simp [hWidth]

theorem readRows_cons_eq_ok_iff
    {width : Nat}
    {row : List Bytes}
    {rows : List (List Bytes)}
    {lists : List (List Binary64)} :
    readRows path width (row :: rows) = .ok lists ↔
      ∃ values rest,
        readRow path width row = .ok values ∧
          readRows path width rows = .ok rest ∧
          lists = values :: rest := by
  rw [readRows]
  cases readRow path width row with
  | error e => simp
  | ok values =>
      cases readRows path width rows with
      | error e => simp
      | ok rest => simp [@eq_comm _ lists]

theorem readRows_eq_ok_iff
    {width : Nat}
    {rows : List (List Bytes)}
    {lists : List (List Binary64)} :
    readRows path width rows = .ok lists ↔
      List.Forall₂
        (fun row values =>
          row.length = width ∧ Reads row values)
        rows lists := by
  induction rows generalizing lists with
  | nil =>
      rw [readRows, List.forall₂_nil_left_iff,
        Except.ok.injEq, eq_comm]
  | cons row rows ih =>
      rw [readRows_cons_eq_ok_iff, List.forall₂_cons_left_iff]
      simp only [ih, readRow_eq_ok_iff]

------------------------------------------------------------
-- Tables of Two Rows
------------------------------------------------------------

/-
  The table has two rows of one length, and their fields
  stand for the values and for the steps.
-/
def HoldsRows
    (content : Bytes)
    (x y : List Binary64) : Prop :=
  ∃ first second,
    Table.rows content = [first, second] ∧
      second.length = first.length ∧
      Reads first x ∧ Reads second y

theorem HoldsRows.length_eq (hRows : HoldsRows content x y) :
    y.length = x.length := by
  rcases hRows with ⟨first, second, -, hWidth, hX, hY⟩
  rw [← hX.length_eq, ← hY.length_eq, hWidth]

/- There is at least one value. -/
theorem HoldsRows.ne_nil (hRows : HoldsRows content x y) :
    x ≠ [] := by
  rcases hRows with ⟨first, second, hTable, -, hX, -⟩
  have hFirst : first ∈ Table.rows content := by
    rw [hTable]
    exact List.mem_cons_self
  rintro rfl
  exact
    Table.ne_nil_of_mem_rows hFirst
      (List.forall₂_nil_right_iff.mp hX)

/- Two lists of numbers are read just from such rows. -/
theorem readRows_eq_pair_iff :
    readRows path (widthOf (Table.rows content))
          (Table.rows content) =
        .ok [x, y] ↔
      HoldsRows content x y := by
  rw [readRows_eq_ok_iff]
  constructor
  · intro hRows
    rcases List.forall₂_cons_right_iff.mp hRows with
      ⟨first, rows, ⟨-, hX⟩, hBehind, hTable⟩
    rcases List.forall₂_cons_right_iff.mp hBehind with
      ⟨second, rows, ⟨hWidth, hY⟩, hEnd, rfl⟩
    cases List.forall₂_nil_right_iff.mp hEnd
    rw [hTable] at hWidth
    exact ⟨first, second, hTable, hWidth, hX, hY⟩
  · rintro ⟨first, second, hTable, hWidth, hX, hY⟩
    rw [hTable]
    exact .cons ⟨rfl, hX⟩ (.cons ⟨hWidth, hY⟩ .nil)

/- A table is read as the numbers of its two rows. -/
theorem ofTable_eq_ok_iff :
    ofTable path content = .ok cdf ↔
      HoldsRows content cdf.x cdf.y := by
  unfold ofTable
  dsimp only
  constructor
  · intro hRead
    split at hRead
    next => cases hRead
    next x y hRows =>
      split at hRead
      next => cases hRead
      next hSome =>
        cases hRead
        exact readRows_eq_pair_iff.mp hRows
    next => cases hRead
  · intro hRows
    rw [readRows_eq_pair_iff.mpr hRows]
    dsimp only
    rw [dif_neg cdf.x_ne_nil]

theorem ofFile_eq_ok_iff {tree : FileTree} :
    ofFile path tree = .ok cdf ↔
      ∃ content,
        tree.read path = .ok content ∧
          HoldsRows content cdf.x cdf.y := by
  unfold ofFile
  cases hContent : tree.read path with
  | error cause => simp
  | ok content => simp [ofTable_eq_ok_iff]

end Cdf

end LatencySweep
