import LatencySweep.Proofs.Cdf.Reading
import LatencySweep.Proofs.Cdf.Samples
import Mathlib.Data.List.Pairwise

/-
  Which distributions have the form of one.

  Sorted values with the ladder of their number are what
  samples lead to, and only samples lead to. The reader of
  files asks for rows of numbers only. So what it returns
  has the form just when the rows of the file have it, and
  in other files the first and last value need not be the
  least and the greatest.

  Main declarations:
    * `Cdf.IsEmpirical`
    * `Cdf.isEmpirical_iff`
    * `Cdf.Spans`
    * `Cdf.KeepsForm`
    * `Cdf.form_of_samples_and_files`
-/

namespace LatencySweep

namespace Cdf

variable {cdf : Cdf}

------------------------------------------------------------
-- The Form of a Distribution Function
------------------------------------------------------------

/- The values stand in total order. -/
def InOrder (values : List Binary64) : Prop :=
  values.Pairwise fun a b => a.totalLe b = true

/- Sorted values, and the ladder of their number. -/
structure IsEmpirical (cdf : Cdf) : Prop where
  sorted : InOrder cdf.x
  steps : cdf.y = ladder cdf.x.length

/- Sorting does not move what is sorted. -/
theorem sorted_eq_self
    {values : List Binary64}
    (hOrder : InOrder values) :
    sorted values = values :=
  List.mergeSort_of_pairwise hOrder

/- A distribution has the form just when it is the one of
   its own values. -/
theorem isEmpirical_iff :
    cdf.IsEmpirical ↔ ofSamples? cdf.x = some cdf := by
  rw [ofSamples?_eq_some_iff]
  constructor
  · intro hForm
    exact
      ⟨cdf.x_ne_nil, (sorted_eq_self hForm.sorted).symm,
        hForm.steps⟩
  · rintro ⟨-, hX, hY⟩
    exact { sorted := hX ▸ pairwise_sorted cdf.x, steps := hY }

/- Samples lead to the form. -/
theorem isEmpirical_of_samples
    {samples : List Binary64}
    (hCdf : ofSamples? samples = some cdf) :
    cdf.IsEmpirical := by
  rcases ofSamples?_eq_some_iff.mp hCdf with ⟨-, hX, hY⟩
  constructor
  case sorted =>
    rw [hX]
    exact pairwise_sorted samples
  case steps => rw [hX, hY, (sorted_perm samples).length_eq]

------------------------------------------------------------
-- The First and the Last Value
------------------------------------------------------------

/- All values lie between the first and the last one. -/
def Spans (cdf : Cdf) : Prop :=
  ∀ value ∈ cdf.x,
    cdf.min.totalLe value = true ∧
      value.totalLe cdf.max = true

theorem min_mem (cdf : Cdf) : cdf.min ∈ cdf.x :=
  List.head_mem cdf.x_ne_nil

theorem max_mem (cdf : Cdf) : cdf.max ∈ cdf.x :=
  List.getLast_mem cdf.x_ne_nil

/- In order, the first is the least and the last is the
   greatest. -/
theorem spans_of_inOrder (hOrder : InOrder cdf.x) :
    cdf.Spans := by
  have hRefl (value : Binary64) :
      value.totalLe value = true := by
    simp [Binary64.totalLe]
  intro value hMem
  constructor
  · exact hOrder.rel_head_of_rel_head_head hMem (hRefl _)
  · exact
      hOrder.rel_getLast_of_rel_getLast_getLast hMem (hRefl _)

------------------------------------------------------------
-- Files
------------------------------------------------------------

/- All that is read from the content has the form, and its
   ends are the least and the greatest value. -/
def KeepsForm (path : Path) (content : Bytes) : Prop :=
  ∀ cdf,
    ofTable path content = .ok cdf →
      cdf.IsEmpirical ∧ cdf.Spans

/- The form is kept just where the rows have it already. -/
theorem keepsForm_iff
    (path : Path)
    (content : Bytes) :
    KeepsForm path content ↔
      ∀ x y,
        HoldsRows content x y →
          InOrder x ∧ y = ladder x.length := by
  constructor
  · intro hKeeps x y hRows
    have hRead :
        ofTable path content =
          .ok { x, y, x_ne_nil := hRows.ne_nil } :=
      ofTable_eq_ok_iff.mpr hRows
    have hForm := (hKeeps _ hRead).1
    exact ⟨hForm.sorted, hForm.steps⟩
  · intro hForm cdf hRead
    rcases hForm _ _ (ofTable_eq_ok_iff.mp hRead) with
      ⟨hOrder, hSteps⟩
    exact
      ⟨{ sorted := hOrder, steps := hSteps },
        spans_of_inOrder hOrder⟩

/-
  Samples lead to distributions of the right form. Files
  lead to as many steps as values and to ends that are
  values, but to the form only where their rows have it.
-/
theorem form_of_samples_and_files
    (samples : List Binary64)
    (path : Path)
    (content : Bytes) :
    (∀ cdf,
      ofSamples? samples = some cdf →
        cdf.IsEmpirical ∧ cdf.Spans) ∧
      (∀ cdf,
        ofTable path content = .ok cdf →
          cdf.y.length = cdf.x.length ∧
            cdf.min ∈ cdf.x ∧ cdf.max ∈ cdf.x ∧
            (cdf.IsEmpirical ↔
              ofSamples? cdf.x = some cdf)) ∧
      (KeepsForm path content ↔
        ∀ x y,
          HoldsRows content x y →
            InOrder x ∧ y = ladder x.length) := by
  refine ⟨?_, ?_, keepsForm_iff path content⟩
  · intro cdf hCdf
    have hForm := isEmpirical_of_samples hCdf
    exact ⟨hForm, spans_of_inOrder hForm.sorted⟩
  · intro cdf hRead
    have hRows := ofTable_eq_ok_iff.mp hRead
    exact
      ⟨hRows.length_eq, cdf.min_mem, cdf.max_mem,
        isEmpirical_iff⟩

/- Two rows of numbers that fall. -/
def fallingRows : Bytes :=
  Bytes.ofText "2\t1\n0.5\t0.25\n"

/- What the falling rows say. -/
def falling : Cdf where
  x := [.ofNat 2, .ofNat 1]
  y := [.ofRatio false 1 2, .ofRatio false 1 4]
  x_ne_nil := List.cons_ne_nil _ _

/- Falling rows are read, although they have not the form,
   and the last value is less than the first one. -/
theorem fallingRows_are_read :
    ofTable ⟨"cdf.txt"⟩ fallingRows = .ok falling ∧
      ¬ falling.IsEmpirical ∧ ¬ falling.Spans ∧
      ¬ KeepsForm ⟨"cdf.txt"⟩ fallingRows := by
  have hRead :
      ofTable ⟨"cdf.txt"⟩ fallingRows = .ok falling := by
    decide +kernel
  have hMin : ¬ falling.min.totalLe falling.max = true := by
    decide +kernel
  have hSpans : ¬ falling.Spans := fun hSpans =>
    hMin (hSpans falling.min falling.min_mem).2
  have hForm : ¬ falling.IsEmpirical := fun hForm =>
    hSpans (spans_of_inOrder hForm.sorted)
  exact
    ⟨hRead, hForm, hSpans, fun hKeeps =>
      hForm (hKeeps falling hRead).1⟩

end Cdf

end LatencySweep
