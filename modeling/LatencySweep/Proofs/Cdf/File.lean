import LatencySweep.Cdf.File
import LatencySweep.Proofs.Cdf.Reading
import LatencySweep.Proofs.Number.Text
import LatencySweep.Proofs.Text.Table

/-
  A distribution is read back from its file.

  The text of a float has neither a tab nor a line feed, and
  it reads back to the float. So the table of a distribution
  has the rows that were written, and these stand for its
  values and steps.

  Main declarations:
    * `Binary64.isPlain_toText`
    * `Cdf.IsCanonical`
    * `Cdf.isCanonical_ofSamples?`
    * `Cdf.reads_fieldsOf`
    * `Cdf.ofTable_toTable`
-/

namespace LatencySweep

------------------------------------------------------------
-- Texts of Floats
------------------------------------------------------------

/- A text of visible characters without quotes. -/
structure IsPlainText (text : List Char) : Prop where
  ne_nil : text ≠ []
  chars : ∀ c ∈ text, 34 < c.toNat ∧ c.toNat < 128

/- A given text is looked through. -/
theorem isPlainText_of_all
    {text : List Char}
    (hText : text ≠ [])
    (hAll :
      (text.all fun c => 34 < c.toNat ∧ c.toNat < 128) =
        true) :
    IsPlainText text where
  ne_nil := hText
  chars := fun c hMem =>
    of_decide_eq_true (List.all_eq_true.mp hAll c hMem)

theorem IsPlainText.cons
    {text : List Char}
    {c : Char}
    (hFirst : 34 < c.toNat ∧ c.toNat < 128)
    (hText : IsPlainText text) :
    IsPlainText (c :: text) where
  ne_nil := List.cons_ne_nil _ _
  chars := by
    intro d hMem
    rcases List.mem_cons.mp hMem with rfl | hBehind
    · exact hFirst
    · exact hText.chars d hBehind

theorem IsNumeral.isPlainText
    {text whole fraction : List Char}
    (hNumeral : IsNumeral text whole fraction) :
    IsPlainText text where
  ne_nil := by
    rcases hNumeral.exists_eq_cons with ⟨c, rest, rfl, -⟩
    exact List.cons_ne_nil _ _
  chars := by
    intro c hMem
    rcases hNumeral.isDigit_or_eq hMem with hDigit | rfl
    · rw [isDigit, Bool.and_eq_true, decide_eq_true_eq,
        decide_eq_true_eq, Char.le_def, Char.le_def,
        UInt32.le_iff_toNat_le, UInt32.le_iff_toNat_le]
        at hDigit
      change 48 ≤ c.toNat ∧ c.toNat ≤ 57 at hDigit
      omega
    · decide

/- The bytes of a plain text are plain. -/
theorem IsPlainText.isPlain
    {text : String}
    (hText : IsPlainText text.toList) :
    Table.IsPlain (Bytes.ofText text) where
  ne_nil := by
    rw [Bytes.ofText_eq]
    intro hNil
    rcases List.exists_mem_of_ne_nil _ hText.ne_nil with
      ⟨c, hMem⟩
    exact
      String.utf8EncodeChar_ne_nil
        (List.flatMap_eq_nil_iff.mp hNil c hMem)
  bytes := by
    rw [Bytes.ofText_eq]
    intro byte hMem
    rcases List.mem_flatMap.mp hMem with ⟨c, hChar, hByte⟩
    rcases hText.chars c hChar with ⟨hLow, hHigh⟩
    have hSize : c.utf8Size = 1 := by
      rw [Char.utf8Size_eq_one_iff, UInt32.le_iff_toNat_le]
      exact Nat.le_of_lt_succ hHigh
    rw [String.utf8EncodeChar_eq_singleton hSize,
      List.mem_singleton] at hByte
    have hValue : byte.toNat = c.toNat := by
      have hSmall : c.toNat < 256 := by omega
      rw [hByte]
      exact Nat.mod_eq_of_lt hSmall
    constructor
    · rw [UInt8.lt_iff_toNat_lt, hValue]
      exact hLow
    · rw [UInt8.lt_iff_toNat_lt, hValue]
      exact hHigh

namespace Binary64

/- The text of a float needs no quotes. -/
theorem isPlainText_toText (x : Binary64) :
    IsPlainText x.toText.toList := by
  have hSigned (body : List Char)
      (hBody : IsPlainText body) :
      IsPlainText (x.signed body).toList := by
    unfold signed
    split
    next => exact isPlainText_of_all (by decide) (by decide)
    next =>
      rw [String.toList_ofList]
      split
      next => exact hBody.cons (by decide)
      next => exact hBody
  unfold toText
  apply hSigned
  split
  next =>
    split
    next => exact isPlainText_of_all (by decide) (by decide)
    next =>
      rcases (shortest .upper x.magnitude).exists_isNumeral
        with ⟨whole, fraction, hNumeral, -⟩
      exact hNumeral.isPlainText
  next => exact isPlainText_of_all (by decide) (by decide)

theorem isPlain_toText (x : Binary64) :
    Table.IsPlain (Bytes.ofText x.toText) :=
  x.isPlainText_toText.isPlain

end Binary64

namespace Cdf

------------------------------------------------------------
-- Canonical Distributions
------------------------------------------------------------

/- As many steps as values, and canonical floats only. -/
structure IsCanonical (cdf : Cdf) : Prop where
  length_y : cdf.y.length = cdf.x.length
  x : ∀ value ∈ cdf.x, value.IsCanonical
  y : ∀ step ∈ cdf.y, step.IsCanonical

theorem isCanonical_of_mem_ladder
    {n : Nat}
    {step : Binary64}
    (hStep : step ∈ ladder n) :
    step.IsCanonical := by
  have hNat (k : Nat) : ¬ (Binary64.ofNat k).IsNaN :=
    Binary64.not_isNaN_ofUnits _ _ _
  rcases List.mem_map.mp hStep with ⟨k, -, rfl⟩
  exact Binary64.isCanonical_div (hNat (k + 1)) (hNat n)

/- The distribution of canonical samples is canonical. -/
theorem isCanonical_ofSamples?
    {samples : List Binary64}
    {cdf : Cdf}
    (hCdf : ofSamples? samples = some cdf)
    (hSamples : ∀ sample ∈ samples, sample.IsCanonical) :
    cdf.IsCanonical := by
  unfold ofSamples? at hCdf
  split at hCdf
  next => cases hCdf
  next hSome =>
    cases hCdf
    exact
      { length_y := by
          rw [length_ladder]
          exact (sorted_perm samples).length_eq.symm
        x := fun value hMem =>
          hSamples value ((sorted_perm samples).mem_iff.mp hMem)
        y := fun _ hMem => isCanonical_of_mem_ladder hMem }

------------------------------------------------------------
-- Reading Back
------------------------------------------------------------

/- The bytes of a row of floats. -/
def fieldsOf (values : List Binary64) : List Bytes :=
  (values.map Binary64.toText).map Bytes.ofText

theorem length_fieldsOf (values : List Binary64) :
    (fieldsOf values).length = values.length := by
  rw [fieldsOf, List.length_map, List.length_map]

theorem mem_fieldsOf
    {values : List Binary64}
    {field : Bytes} :
    field ∈ fieldsOf values ↔
      ∃ value ∈ values, Bytes.ofText value.toText = field := by
  rw [fieldsOf, List.map_map, List.mem_map]
  rfl

/- Fields are read as the floats that were written. -/
theorem reads_fieldsOf
    {values : List Binary64}
    (hCanonical : ∀ value ∈ values, value.IsCanonical) :
    Reads (fieldsOf values) values := by
  unfold Reads fieldsOf
  rw [List.map_map, List.forall₂_map_left_iff]
  refine List.forall₂_same.mpr fun value hMem => ?_
  exact
    ⟨value.toText, Bytes.toText?_ofText _,
      Binary64.read?_toText (hCanonical value hMem)⟩

/- There is a step, since there is a value. -/
theorem IsCanonical.y_ne_nil
    {cdf : Cdf}
    (hCanonical : cdf.IsCanonical) :
    cdf.y ≠ [] := by
  intro hNil
  have hLength := hCanonical.length_y
  rw [hNil] at hLength
  exact cdf.x_ne_nil (List.length_eq_zero_iff.mp hLength.symm)

/- The rows of the table of a distribution. -/
theorem rows_toTable
    {cdf : Cdf}
    (hCanonical : cdf.IsCanonical) :
    Table.rows (Bytes.ofText cdf.toTable) =
      [fieldsOf cdf.x, fieldsOf cdf.y] := by
  have hRow {values : List Binary64}
      (hSome : values ≠ []) :
      values.map Binary64.toText ≠ [] ∧
        ∀ field ∈ values.map Binary64.toText,
          Table.IsPlain (Bytes.ofText field) := by
    refine ⟨fun hNil => hSome (List.map_eq_nil_iff.mp hNil), ?_⟩
    intro field hMem
    rcases List.mem_map.mp hMem with ⟨value, -, rfl⟩
    exact value.isPlain_toText
  apply Table.rows_ofRows
  intro row hMem
  rcases List.mem_cons.mp hMem with rfl | hLast
  · exact hRow cdf.x_ne_nil
  · rw [List.mem_singleton.mp hLast]
    exact hRow hCanonical.y_ne_nil

/- The table of a canonical distribution holds just that
   distribution. -/
theorem ofTable_toTable
    {cdf : Cdf}
    (hCanonical : cdf.IsCanonical)
    (path : Path) :
    ofTable path (Bytes.ofText cdf.toTable) = .ok cdf := by
  have hLength :
      (fieldsOf cdf.y).length = (fieldsOf cdf.x).length := by
    rw [length_fieldsOf, length_fieldsOf, hCanonical.length_y]
  exact
    ofTable_eq_ok_iff.mpr
      ⟨_, _, rows_toTable hCanonical, hLength,
        reads_fieldsOf hCanonical.x,
        reads_fieldsOf hCanonical.y⟩

end Cdf

end LatencySweep
