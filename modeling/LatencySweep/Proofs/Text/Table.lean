import LatencySweep.Text.Lines
import LatencySweep.Text.Table
import Mathlib.Data.List.SplitOn

/-
  A table of plain fields is read back.

  The reader passes over the bytes of a plain field without
  leaving it, a tab ends the field, and the line feed behind
  the last one ends the row. So the rows that are written
  are the rows that are read.

  Main declarations:
    * `Table.IsPlain`
    * `Table.rowsFrom_row`
    * `Table.rows_ofRows`
    * `Table.splitOn_row`
-/

namespace LatencySweep

------------------------------------------------------------
-- Bytes of Texts
------------------------------------------------------------

namespace Bytes

theorem ofText_append (first second : String) :
    ofText (first ++ second) =
      ofText first ++ ofText second := by
  unfold ofText String.toUTF8
  rw [String.toByteArray_append, ByteArray.data_append,
    Array.toList_append]

theorem ofText_eq (text : String) :
    ofText text = text.toList.flatMap String.utf8EncodeChar := by
  have hBytes :=
    congrArg String.toByteArray (String.ofList_toList (s := text))
  rw [String.toByteArray_ofList] at hBytes
  unfold ofText String.toUTF8
  rw [← hBytes, List.utf8Encode, List.data_toByteArray]

end Bytes

namespace Table

------------------------------------------------------------
-- Plain Fields
------------------------------------------------------------

/- A byte of a visible character that is no quote. -/
def IsPlainByte (byte : UInt8) : Prop :=
  quoteMark < byte ∧ byte < 0x80

/- A field with content that needs no quotes. -/
structure IsPlain (field : Bytes) : Prop where
  ne_nil : field ≠ []
  bytes : ∀ byte ∈ field, IsPlainByte byte

theorem IsPlainByte.ne
    {byte other : UInt8}
    (hPlain : IsPlainByte byte)
    (hOther : other ≤ quoteMark) :
    byte ≠ other := by
  rintro rfl
  exact absurd hPlain.1 (UInt8.not_lt.mpr hOther)

theorem IsPlainByte.endsRow_eq
    {byte : UInt8}
    (hPlain : IsPlainByte byte) :
    endsRow byte = false := by
  have hFeed : byte ≠ 10 := hPlain.ne (by decide)
  have hReturn : byte ≠ 13 := hPlain.ne (by decide)
  simp [endsRow, hFeed, hReturn]

theorem IsPlainByte.plainAction_eq
    {byte : UInt8}
    (hPlain : IsPlainByte byte) :
    plainAction byte = .take .plain := by
  unfold plainAction
  rw [if_neg (hPlain.ne (by decide)), hPlain.endsRow_eq]
  rfl

------------------------------------------------------------
-- Reading
------------------------------------------------------------

/- Where a field may start. -/
def Position.IsStart (position : Position) : Prop :=
  position = .betweenRows ∨ position = .fieldStart

/- A byte that is taken goes to the current field. -/
theorem rowsFrom_take
    {position next : Position}
    {byte : UInt8}
    (hTake : action position byte = .take next)
    (fields : List Bytes)
    (field rest : Bytes) :
    rowsFrom position fields field (byte :: rest) =
      rowsFrom next fields (field ++ [byte]) rest := by
  rw [rowsFrom, hTake]

/- Plain bytes go to the current field. -/
theorem rowsFrom_plain
    (fields : List Bytes)
    (field : Bytes)
    {text : Bytes}
    (hPlain : ∀ byte ∈ text, IsPlainByte byte)
    (rest : Bytes) :
    rowsFrom .plain fields field (text ++ rest) =
      rowsFrom .plain fields (field ++ text) rest := by
  induction text generalizing field with
  | nil => rw [List.nil_append, List.append_nil]
  | cons byte text ih =>
      have hByte := hPlain byte List.mem_cons_self
      have hText : ∀ byte ∈ text, IsPlainByte byte :=
        fun byte hMem =>
          hPlain byte (List.mem_cons_of_mem _ hMem)
      have hAction : action .plain byte = .take .plain :=
        hByte.plainAction_eq
      rw [List.cons_append, rowsFrom_take hAction, ih _ hText,
        List.append_assoc]
      rfl

/- A plain field is passed over from its start. -/
theorem rowsFrom_field
    {position : Position}
    (hStart : position.IsStart)
    (fields : List Bytes)
    {field : Bytes}
    (hPlain : IsPlain field)
    (rest : Bytes) :
    rowsFrom position fields [] (field ++ rest) =
      rowsFrom .plain fields field rest := by
  rcases field with _ | ⟨byte, text⟩
  · exact absurd rfl hPlain.ne_nil
  · have hByte := hPlain.bytes byte List.mem_cons_self
    have hText : ∀ byte ∈ text, IsPlainByte byte :=
      fun byte hMem =>
        hPlain.bytes byte (List.mem_cons_of_mem _ hMem)
    have hFirst : startAction byte = .take .plain := by
      unfold startAction
      rw [if_neg (hByte.ne (Nat.le_refl _)),
        hByte.plainAction_eq]
    have hAction : action position byte = .take .plain := by
      rcases hStart with rfl | rfl
      · change (if endsRow byte = true then _ else _) = _
        rw [hByte.endsRow_eq, if_neg Bool.false_ne_true]
        exact hFirst
      · exact hFirst
    rw [List.cons_append, rowsFrom_take hAction,
      rowsFrom_plain _ _ hText]
    rfl

/- The bytes of a row. -/
def rowBytes (row : List Bytes) : Bytes :=
  [tab].intercalate row ++ [10]

/- A row of plain fields is read as it was written. -/
theorem rowsFrom_row
    {position : Position}
    (hStart : position.IsStart)
    (fields : List Bytes)
    {row : List Bytes}
    (hSome : row ≠ [])
    (hPlain : ∀ field ∈ row, IsPlain field)
    (rest : Bytes) :
    rowsFrom position fields [] (rowBytes row ++ rest) =
      (fields ++ row) :: rowsFrom .betweenRows [] [] rest := by
  unfold rowBytes
  induction row generalizing position fields with
  | nil => exact absurd rfl hSome
  | cons field row ih =>
      have hField := hPlain field List.mem_cons_self
      have hRow : ∀ field ∈ row, IsPlain field :=
        fun field hMem =>
          hPlain field (List.mem_cons_of_mem _ hMem)
      cases row with
      | nil =>
          rw [List.intercalate_singleton, List.append_assoc,
            rowsFrom_field hStart fields hField]
          rfl
      | cons next row =>
          rw [List.intercalate_cons_cons, List.append_assoc,
            List.append_assoc, List.append_assoc,
            rowsFrom_field hStart fields hField]
          change
            rowsFrom .fieldStart (fields ++ [field]) []
              ([tab].intercalate (next :: row) ++
                ([10] ++ rest)) = _
          rw [← List.append_assoc,
            ih (Or.inr rfl) _ (List.cons_ne_nil _ _) hRow,
            List.append_assoc]
          rfl

/- Rows of plain fields are read as they were written. -/
theorem rowsFrom_rows
    {rows : List (List Bytes)}
    (hPlain :
      ∀ row ∈ rows, row ≠ [] ∧ ∀ field ∈ row, IsPlain field) :
    rowsFrom .betweenRows [] [] (rows.flatMap rowBytes) =
      rows := by
  induction rows with
  | nil => rfl
  | cons row rows ih =>
      rcases hPlain row List.mem_cons_self with ⟨hSome, hRow⟩
      have hRows :
          ∀ row ∈ rows,
            row ≠ [] ∧ ∀ field ∈ row, IsPlain field :=
        fun row hMem =>
          hPlain row (List.mem_cons_of_mem _ hMem)
      rw [List.flatMap_cons,
        rowsFrom_row (Or.inl rfl) [] hSome hRow, ih hRows]
      rfl

/- Plain fields have no mark in front of them. -/
theorem dropMark_rows
    {rows : List (List Bytes)}
    (hPlain :
      ∀ row ∈ rows, row ≠ [] ∧ ∀ field ∈ row, IsPlain field) :
    dropMark (rows.flatMap rowBytes) =
      rows.flatMap rowBytes := by
  unfold dropMark
  rw [if_neg]
  intro hMark
  rcases rows with _ | ⟨row, rows⟩
  · cases hMark
  rcases hPlain row List.mem_cons_self with ⟨hSome, hRow⟩
  rcases row with _ | ⟨field, row⟩
  · exact hSome rfl
  have hField := hRow field List.mem_cons_self
  rcases field with _ | ⟨byte, text⟩
  · exact hField.ne_nil rfl
  have hByte := hField.bytes byte List.mem_cons_self
  have hStarts :
      ∃ rest, rowBytes ((byte :: text) :: row) = byte :: rest := by
    cases row with
    | nil => exact ⟨_, rfl⟩
    | cons next row => exact ⟨_, rfl⟩
  rcases hStarts with ⟨rest, hStarts⟩
  rw [List.flatMap_cons, hStarts, List.isPrefixOf_iff_prefix]
    at hMark
  have hFirst := (List.cons_prefix_cons.mp hMark).1
  rw [← hFirst] at hByte
  exact absurd hByte.2 (by decide)

------------------------------------------------------------
-- Writing
------------------------------------------------------------

theorem ofText_ofRow (fields : List String) :
    Bytes.ofText (ofRow fields) =
      rowBytes (fields.map Bytes.ofText) := by
  unfold ofRow rowBytes
  rw [Bytes.ofText_append]
  congr 1
  induction fields with
  | nil => rfl
  | cons field fields ih =>
      cases fields with
      | nil =>
          rw [String.intercalate_singleton, List.map_cons,
            List.map_nil, List.intercalate_singleton]
      | cons next fields =>
          rw [String.intercalate_cons_cons, Bytes.ofText_append,
            Bytes.ofText_append, ih]
          simp only [List.map_cons, List.intercalate_cons_cons]
          rfl

theorem ofText_ofRows (rows : List (List String)) :
    Bytes.ofText (ofRows rows) =
      (rows.map (List.map Bytes.ofText)).flatMap rowBytes := by
  unfold ofRows
  induction rows with
  | nil => rfl
  | cons row rows ih =>
      rw [List.map_cons, String.join_cons, Bytes.ofText_append,
        ofText_ofRow, ih]
      rfl

/- A table of plain fields is read as it was written. -/
theorem rows_ofRows
    {rows : List (List String)}
    (hPlain :
      ∀ row ∈ rows,
        row ≠ [] ∧
          ∀ field ∈ row, IsPlain (Bytes.ofText field)) :
    Table.rows (Bytes.ofText (ofRows rows)) =
      rows.map (List.map Bytes.ofText) := by
  have hBytes :
      ∀ row ∈ rows.map (List.map Bytes.ofText),
        row ≠ [] ∧ ∀ field ∈ row, IsPlain field := by
    intro row hMem
    rcases List.mem_map.mp hMem with ⟨texts, hTexts, rfl⟩
    rcases hPlain texts hTexts with ⟨hSome, hFields⟩
    refine ⟨fun hNil => hSome (List.map_eq_nil_iff.mp hNil), ?_⟩
    intro field hField
    rcases List.mem_map.mp hField with ⟨text, hText, rfl⟩
    exact hFields text hText
  unfold Table.rows
  rw [ofText_ofRows, dropMark_rows hBytes,
    rowsFrom_rows hBytes]

------------------------------------------------------------
-- Lines of Plain Fields
------------------------------------------------------------

variable {row : List Bytes}

/- A byte of a row is one of a field or stands between
   them. -/
theorem mem_intercalate
    {byte : UInt8}
    (hByte : byte ∈ [tab].intercalate row) :
    byte = tab ∨ ∃ field ∈ row, byte ∈ field := by
  induction row with
  | nil => cases hByte
  | cons field row ih =>
      cases row with
      | nil =>
          rw [List.intercalate_singleton] at hByte
          exact Or.inr ⟨field, List.mem_cons_self, hByte⟩
      | cons next row =>
          rw [List.intercalate_cons_cons, List.mem_append,
            List.mem_append, List.mem_singleton] at hByte
          rcases hByte with (hField | hTab) | hRest
          · exact Or.inr ⟨field, List.mem_cons_self, hField⟩
          · exact Or.inl hTab
          · rcases ih hRest with hTab | ⟨other, hMem, hOther⟩
            · exact Or.inl hTab
            · exact
                Or.inr
                  ⟨other, List.mem_cons_of_mem _ hMem, hOther⟩

/- No line ends within a row of plain fields. -/
theorem lineFeed_notMem_row
    (hPlain : ∀ field ∈ row, IsPlain field) :
    Bytes.lineFeed ∉ [tab].intercalate row := by
  intro hFeed
  rcases mem_intercalate hFeed with hTab | ⟨field, hMem, hIn⟩
  · exact absurd hTab (by decide)
  · exact
      ((hPlain field hMem).bytes _ hIn).ne (by decide) rfl

/- Between the tabs of a row are its fields. -/
theorem splitOn_row
    (hSome : row ≠ [])
    (hPlain : ∀ field ∈ row, IsPlain field) :
    ([tab].intercalate row).splitOn tab = row := by
  apply List.splitOn_intercalate tab _ hSome
  intro field hMem hTab
  exact ((hPlain field hMem).bytes _ hTab).ne (by decide) rfl

end Table

end LatencySweep
