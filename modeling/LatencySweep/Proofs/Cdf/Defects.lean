import LatencySweep.Proofs.Cdf.Reading

/-
  Why a table is not read as a distribution.

  The rows of a table are read one after the other, and so
  are the fields of a row, once its length is right and all
  of it is text. Each of these goes through a list up to the
  first item that cannot be read. How many rows there are is
  only asked when all of them have been read.

  Main declarations:
    * `mapM_eq_error_iff`
    * `Cdf.IsDefectOf`
    * `Cdf.IsFirstDefect`
    * `Cdf.ofTable_eq_error_iff`
    * `Cdf.ReadsTwoRows`
    * `Cdf.readsTwoRows`
-/

namespace LatencySweep

------------------------------------------------------------
-- First Errors
------------------------------------------------------------

section FirstErrors

variable {α β ε : Type} {f : α → Except ε β}

/- The first error in a list is that of its head, or else the
   first one behind it. -/
theorem mapM_cons_eq_error_iff
    {a : α}
    {items : List α}
    {e : ε} :
    (a :: items).mapM f = .error e ↔
      f a = .error e ∨
        (∃ b, f a = .ok b) ∧ items.mapM f = .error e := by
  rw [List.mapM_cons]
  cases f a with
  | error first => simp [bind, Except.bind]
  | ok b =>
      cases items.mapM f with
      | error later => simp [bind, Except.bind]
      | ok bs => simp [bind, Except.bind, pure, Except.pure]

/- The first item that fails decides the error. -/
theorem mapM_eq_error_iff
    {items : List α}
    {e : ε} :
    items.mapM f = .error e ↔
      ∃ front a back,
        items = front ++ a :: back ∧
          (∀ item ∈ front, ∃ b, f item = .ok b) ∧
            f a = .error e := by
  induction items with
  | nil =>
      constructor
      · intro hError
        cases hError
      · rintro ⟨front, a, back, hItems, -⟩
        exact absurd hItems.symm (by simp)
  | cons first items ih =>
      rw [mapM_cons_eq_error_iff, ih]
      constructor
      · rintro (hFirst | ⟨hOk, front, a, back, rfl, hFront, hA⟩)
        · exact ⟨[], first, items, rfl, nofun, hFirst⟩
        · exact
            ⟨first :: front, a, back, rfl,
              List.forall_mem_cons.mpr ⟨hOk, hFront⟩, hA⟩
      · rintro ⟨front, a, back, hItems, hFront, hA⟩
        cases front with
        | nil =>
            cases hItems
            exact Or.inl hA
        | cons other front =>
            cases hItems
            rw [List.forall_mem_cons] at hFront
            exact
              Or.inr
                ⟨hFront.1, front, a, back, rfl, hFront.2, hA⟩

end FirstErrors

namespace Cdf

variable {path : Path} {content : Bytes}
variable {width : Nat} {row : List Bytes}

------------------------------------------------------------
-- Fields
------------------------------------------------------------

/- The text of a field. -/
def readText (field : Bytes) : Except TableError String :=
  match Bytes.toText? field with
  | none => .error .malformedText
  | some text => .ok text

/- The number that a text stands for. -/
def readNumber (text : String) : Except CdfDefect Binary64 :=
  match Binary64.read? text.toList with
  | none => .error (.unreadable text)
  | some value => .ok value

theorem readText_eq_error_iff
    {field : Bytes}
    {e : TableError} :
    readText field = .error e ↔
      Bytes.toText? field = none ∧ e = .malformedText := by
  unfold readText
  cases Bytes.toText? field with
  | none => simp [@eq_comm _ e]
  | some text => simp

theorem readNumber_eq_error_iff
    {text : String}
    {defect : CdfDefect} :
    readNumber text = .error defect ↔
      Binary64.read? text.toList = none ∧
        defect = .unreadable text := by
  unfold readNumber
  cases Binary64.read? text.toList with
  | none => simp [@eq_comm _ defect]
  | some value => simp

theorem readNumber_eq_ok_iff
    {text : String}
    {value : Binary64} :
    readNumber text = .ok value ↔
      Binary64.read? text.toList = some value := by
  unfold readNumber
  cases Binary64.read? text.toList with
  | none => simp
  | some other => simp

theorem readFields_eq_mapM (row : List Bytes) :
    readFields row = row.mapM readText := by
  induction row with
  | nil => rfl
  | cons field row ih =>
      rw [readFields, List.mapM_cons, ← ih, readText]
      cases Bytes.toText? field with
      | none => rfl
      | some text => cases readFields row <;> rfl

theorem readNumbers_eq_mapM (texts : List String) :
    readNumbers texts = texts.mapM readNumber := by
  induction texts with
  | nil => rfl
  | cons text texts ih =>
      rw [readNumbers, List.mapM_cons, ← ih, readNumber]
      cases Binary64.read? text.toList with
      | none => rfl
      | some value => cases readNumbers texts <;> rfl

/- The fields are texts, one for each field. -/
theorem readFields_eq_ok_iff
    {texts : List String} :
    readFields row = .ok texts ↔
      row.map Bytes.toText? = texts.map some := by
  induction row generalizing texts with
  | nil => cases texts <;> simp [readFields]
  | cons field row ih =>
      rw [readFields_cons_eq_ok_iff]
      cases texts with
      | nil => simp
      | cons text texts => simp [ih]

/- A row with a field that is no text has no texts. -/
theorem readFields_eq_error_iff
    {e : TableError} :
    readFields row = .error e ↔
      (∃ field ∈ row, Bytes.toText? field = none) ∧
        e = .malformedText := by
  rw [readFields_eq_mapM]
  constructor
  · intro hError
    rcases mapM_eq_error_iff.mp hError with
      ⟨front, field, back, rfl, -, hField⟩
    rw [readText_eq_error_iff] at hField
    exact
      ⟨⟨field, List.mem_append_right _ List.mem_cons_self,
        hField.1⟩, hField.2⟩
  · rintro ⟨⟨field, hMem, hField⟩, rfl⟩
    rw [← readFields_eq_mapM]
    cases hRead : readFields row with
    | error other =>
        rw [readFields_eq_mapM] at hRead
        rcases mapM_eq_error_iff.mp hRead with
          ⟨_, _, _, -, -, hOther⟩
        rw [(readText_eq_error_iff.mp hOther).2]
    | ok texts =>
        have hTexts := readFields_eq_ok_iff.mp hRead
        have hNone : none ∈ row.map Bytes.toText? :=
          List.mem_map.mpr ⟨field, hMem, hField⟩
        rw [hTexts] at hNone
        rcases List.mem_map.mp hNone with ⟨_, -, hSome⟩
        cases hSome

/- The first text that stands for no number is named. -/
theorem readNumbers_eq_error_iff
    {texts : List String}
    {defect : CdfDefect} :
    readNumbers texts = .error defect ↔
      ∃ front text back,
        texts = front ++ text :: back ∧
          (∀ other ∈ front,
            ∃ value,
              Binary64.read? other.toList = some value) ∧
            Binary64.read? text.toList = none ∧
              defect = .unreadable text := by
  rw [readNumbers_eq_mapM, mapM_eq_error_iff]
  simp only [readNumber_eq_ok_iff, readNumber_eq_error_iff]

------------------------------------------------------------
-- Rows
------------------------------------------------------------

/- The row has the width, and its fields stand for
   numbers. -/
def IsSound (width : Nat) (row : List Bytes) : Prop :=
  row.length = width ∧ ∃ values, Reads row values

/-
  What is wrong with a row that is to have a width. Numbers
  are looked for only in a row of that width that is text
  throughout, and then the first field that stands for no
  number is named.
-/
inductive IsDefectOf
    (path : Path)
    (width : Nat)
    (row : List Bytes) : CdfError → Prop where
  | uneven
      (hWidth : row.length ≠ width) :
      IsDefectOf path width row
        (.table (.unequalLengths width row.length))
  | malformed
      (hWidth : row.length = width)
      {field : Bytes}
      (hField : field ∈ row)
      (hText : Bytes.toText? field = none) :
      IsDefectOf path width row (.table .malformedText)
  | unreadable
      (hWidth : row.length = width)
      {texts front back : List String}
      {text : String}
      (hTexts : row.map Bytes.toText? = texts.map some)
      (hSplit : texts = front ++ text :: back)
      (hFront :
        ∀ other ∈ front,
          ∃ value, Binary64.read? other.toList = some value)
      (hText : Binary64.read? text.toList = none) :
      IsDefectOf path width row
        (.malformed path (.unreadable text))

theorem exists_readRow_eq_ok_iff :
    (∃ values, readRow path width row = .ok values) ↔
      IsSound width row := by
  simp only [readRow_eq_ok_iff, IsSound, exists_and_left]

theorem readRow_eq_error_iff
    {e : CdfError} :
    readRow path width row = .error e ↔
      IsDefectOf path width row e := by
  unfold readRow
  constructor
  · intro hError
    split at hError
    next hWidth =>
      cases hError
      exact .uneven hWidth
    next hWidth =>
      rw [not_not] at hWidth
      split at hError
      next cause hFields =>
        cases hError
        rcases readFields_eq_error_iff.mp hFields with
          ⟨⟨field, hField, hText⟩, rfl⟩
        exact .malformed hWidth hField hText
      next texts hFields =>
        split at hError
        next defect hNumbers =>
          cases hError
          rcases readNumbers_eq_error_iff.mp hNumbers with
            ⟨front, text, back, hSplit, hFront, hText, rfl⟩
          exact
            .unreadable hWidth
              (readFields_eq_ok_iff.mp hFields) hSplit hFront
              hText
        next => cases hError
  · intro hDefect
    cases hDefect with
    | uneven hWidth => rw [if_pos hWidth]
    | malformed hWidth hField hText =>
        rw [if_neg (not_not.mpr hWidth),
          readFields_eq_error_iff.mpr
            ⟨⟨_, hField, hText⟩, rfl⟩]
    | unreadable hWidth hTexts hSplit hFront hText =>
        rw [if_neg (not_not.mpr hWidth),
          readFields_eq_ok_iff.mpr hTexts]
        dsimp only
        rw [readNumbers_eq_error_iff.mpr
          ⟨_, _, _, hSplit, hFront, hText, rfl⟩]

------------------------------------------------------------
-- Tables
------------------------------------------------------------

theorem readRows_eq_mapM (rows : List (List Bytes)) :
    readRows path width rows =
      rows.mapM (readRow path width) := by
  induction rows with
  | nil => rfl
  | cons row rows ih =>
      rw [readRows, List.mapM_cons, ← ih]
      cases readRow path width row with
      | error e => rfl
      | ok values => cases readRows path width rows <;> rfl

/-
  The first thing that is wrong with the rows of a table,
  which are to be as wide as the first one. Their number
  comes last.
-/
inductive IsFirstDefect
    (path : Path)
    (rows : List (List Bytes)) : CdfError → Prop where
  | row
      {front back : List (List Bytes)}
      {row : List Bytes}
      {e : CdfError}
      (hRows : rows = front ++ row :: back)
      (hFront :
        ∀ other ∈ front, IsSound (widthOf rows) other)
      (hRow : IsDefectOf path (widthOf rows) row e) :
      IsFirstDefect path rows e
  | count
      (hRows : ∀ row ∈ rows, IsSound (widthOf rows) row)
      (hCount : rows.length ≠ 2) :
      IsFirstDefect path rows (.malformed path .rowCount)

theorem readRows_eq_error_iff
    {rows : List (List Bytes)}
    {e : CdfError} :
    readRows path width rows = .error e ↔
      ∃ front row back,
        rows = front ++ row :: back ∧
          (∀ other ∈ front, IsSound width other) ∧
            IsDefectOf path width row e := by
  rw [readRows_eq_mapM, mapM_eq_error_iff]
  simp only [exists_readRow_eq_ok_iff, readRow_eq_error_iff]

/- A row with a defect is not sound. -/
theorem IsDefectOf.not_isSound
    {e : CdfError}
    (hDefect : IsDefectOf path width row e) :
    ¬ IsSound width row := by
  intro hSound
  have hReads : ∃ values, readRow path width row = .ok values :=
    exists_readRow_eq_ok_iff.mpr hSound
  rcases hReads with ⟨values, hRead⟩
  rw [readRow_eq_error_iff.mpr hDefect] at hRead
  cases hRead

/- Rows that have been read are sound, and there are as many
   lists of numbers. -/
theorem isSound_of_readRows
    {rows : List (List Bytes)}
    {lists : List (List Binary64)}
    (hRead : readRows path width rows = .ok lists) :
    lists.length = rows.length ∧
      ∀ row ∈ rows, IsSound width row := by
  have hAll := readRows_eq_ok_iff.mp hRead
  clear hRead
  refine ⟨hAll.length_eq.symm, ?_⟩
  induction hAll with
  | nil => exact nofun
  | cons hRow _ ih =>
      exact
        List.forall_mem_cons.mpr
          ⟨⟨hRow.1, _, hRow.2⟩, ih⟩

/- A table is refused for its first defect. -/
theorem ofTable_eq_error_iff
    {e : CdfError} :
    ofTable path content = .error e ↔
      IsFirstDefect path (Table.rows content) e := by
  unfold ofTable
  dsimp only
  cases hRead :
      readRows path (widthOf (Table.rows content))
        (Table.rows content) with
  | error first =>
      rcases readRows_eq_error_iff.mp hRead with
        ⟨front, row, back, hRows, hFront, hRow⟩
      constructor
      · intro hError
        cases hError
        exact .row hRows hFront hRow
      · intro hDefect
        cases hDefect with
        | row hRows hFront hRow =>
            have hSame :=
              readRows_eq_error_iff.mpr
                ⟨_, _, _, hRows, hFront, hRow⟩
            rw [hRead] at hSame
            cases hSame
            rfl
        | count hSound _ =>
            have hMem : row ∈ Table.rows content := by
              rw [hRows]
              exact
                List.mem_append_right _ List.mem_cons_self
            exact absurd (hSound row hMem) hRow.not_isSound
  | ok lists =>
      rcases isSound_of_readRows hRead with
        ⟨hLength, hSound⟩
      have hCounted (hDefect :
          IsFirstDefect path (Table.rows content) e) :
          lists.length ≠ 2 ∧ e = .malformed path .rowCount := by
        cases hDefect with
        | row hRows _ hRow =>
            refine absurd (hSound _ ?_) hRow.not_isSound
            rw [hRows]
            exact List.mem_append_right _ List.mem_cons_self
        | count _ hCount => exact ⟨hLength ▸ hCount, rfl⟩
      split
      next hNone => cases hNone
      next x y hPair =>
        cases hPair
        have hSome :=
          (readRows_eq_pair_iff.mp hRead).ne_nil
        rw [dif_neg hSome]
        constructor
        · intro hError
          cases hError
        · intro hDefect
          exact absurd rfl (hCounted hDefect).1
      next others hOther hLists =>
        cases hLists
        constructor
        · intro hError
          cases hError
          refine .count hSound ?_
          rw [← hLength]
          intro hTwo
          rcases List.length_eq_two.mp hTwo with
            ⟨x, y, rfl⟩
          exact hOther x y rfl
        · intro hDefect
          rw [(hCounted hDefect).2]

------------------------------------------------------------
-- Tables of Two Rows
------------------------------------------------------------

/-
  How a table is read. There is a result just if it has two
  rows of one length whose fields all stand for numbers, and
  then these are the result, row by row. Otherwise there is
  an error, which is the first defect. A file is read as the
  table that it holds.
-/
structure ReadsTwoRows
    (path : Path)
    (content : Bytes) : Prop where
  accepts :
    ∀ x y,
      (∃ hSome,
        ofTable path content =
          .ok { x, y, x_ne_nil := hSome }) ↔
        HoldsRows content x y
  equal_lengths :
    ∀ cdf,
      ofTable path content = .ok cdf →
        cdf.x ≠ [] ∧ cdf.y ≠ [] ∧
          cdf.y.length = cdf.x.length
  rejects :
    ∀ e,
      ofTable path content = .error e ↔
        IsFirstDefect path (Table.rows content) e
  file :
    ∀ tree : FileTree,
      tree.read path = .ok content →
        ofFile path tree = ofTable path content

theorem readsTwoRows
    (path : Path)
    (content : Bytes) :
    ReadsTwoRows path content where
  accepts := by
    intro x y
    constructor
    · rintro ⟨hSome, hRead⟩
      exact ofTable_eq_ok_iff.mp hRead
    · intro hRows
      exact ⟨hRows.ne_nil, ofTable_eq_ok_iff.mpr hRows⟩
  equal_lengths := by
    intro cdf hRead
    have hLength := (ofTable_eq_ok_iff.mp hRead).length_eq
    refine ⟨cdf.x_ne_nil, ?_, hLength⟩
    rw [← List.length_pos_iff, hLength, List.length_pos_iff]
    exact cdf.x_ne_nil
  rejects := fun _ => ofTable_eq_error_iff
  file := by
    intro tree hContent
    unfold ofFile
    rw [hContent]

/- The rows behind a wrong field are not looked at. -/
example :
    ofTable ⟨"cdf.txt"⟩ (Bytes.ofText "1\tx\n1\n0.5\t1\n") =
      .error (.malformed ⟨"cdf.txt"⟩ (.unreadable "x")) := by
  decide +kernel

end Cdf

end LatencySweep
