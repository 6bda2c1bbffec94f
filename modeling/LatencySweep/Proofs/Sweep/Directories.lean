import LatencySweep.Proofs.Path.Alike
import LatencySweep.Proofs.Sweep.Validity

/-
  The directories of different tuples are different places.

  The texts of two output directories differ in values only,
  which stand behind dashes and hold no separator. So the
  texts are alike, and their steps tell the tuples apart.

  Main declarations:
    * `Binding.labelText`
    * `Sweep.text_outputDir`
    * `Sweep.IsValid.eq_of_steps_eq`
    * `Sweep.IsValid.isDashed_outputDir`
-/

namespace LatencySweep

------------------------------------------------------------
-- Labels
------------------------------------------------------------

/- The text that a binding adds to a directory name. -/
def Binding.labelText (b : Binding) : List Char :=
  '_' :: b.token.toList ++ '-' :: b.value.toText.toList

/- The text that bindings add to a directory name. -/
def labelsText (bindings : List Binding) : List Char :=
  bindings.flatMap Binding.labelText

theorem Tuple.toList_directoryName
    (tuple : Tuple)
    (front : String) :
    (tuple.directoryName front).toList =
      front.toList ++ labelsText tuple.bindings := by
  unfold directoryName labelsText
  rw [toList_intercalate_cons, List.flatMap_map]
  have hLabel (b : Binding) :
      "_".toList ++ b.label.toList = b.labelText := by
    simp [Binding.label, Binding.labelText, ToString.toString]
  simp only [hLabel]

/- A label does not start with a separator. -/
theorem head?_labelsText (bindings : List Binding) :
    (labelsText bindings).head? ≠ some '/' := by
  cases bindings with
  | nil => exact nofun
  | cons b bindings =>
      intro hHead
      cases hHead

------------------------------------------------------------
-- Allowed Bindings
------------------------------------------------------------

/- The value of the binding holds no separator. -/
def Binding.IsAllowed (b : Binding) : Prop :=
  '/' ∉ b.value.toText.toList

/- Bindings of the same tokens to allowed values. -/
def Binding.IsPeer (b other : Binding) : Prop :=
  b.token = other.token ∧ b.IsAllowed ∧ other.IsAllowed

/- Bindings to values of the same axes are such. -/
theorem isPeer_of_isOf
    {axes : List Axis}
    {bindings others : List Binding}
    (hValues :
      ∀ axis ∈ axes, ∀ value ∈ axis.values,
        value.isInvalid = false)
    (hBindings : List.Forall₂ Binding.IsOf axes bindings)
    (hOthers : List.Forall₂ Binding.IsOf axes others) :
    List.Forall₂ Binding.IsPeer bindings others := by
  induction hBindings generalizing others with
  | nil =>
      cases hOthers
      exact .nil
  | @cons axis b axes bindings hFirst _ ih =>
      rw [List.forall_mem_cons] at hValues
      cases hOthers with
      | cons hOther hRest =>
          refine .cons ?_ (ih hValues.2 hRest)
          exact
            ⟨hFirst.1.trans hOther.1.symm,
              AxisValue.separator_notMem
                (hValues.1 _ hFirst.2),
              AxisValue.separator_notMem
                (hValues.1 _ hOther.2)⟩

/- The labels of such bindings are alike. -/
theorem alike_labelsText
    {bindings others : List Binding}
    (hPeers : List.Forall₂ Binding.IsPeer bindings others) :
    Path.Alike (labelsText bindings) (labelsText others) := by
  induction hPeers with
  | nil => exact .refl []
  | @cons b other bindings others hPeer _ ih =>
      rcases hPeer with ⟨hToken, hAllowed, hOther⟩
      have hValues := ih.value hAllowed hOther
      have hLabels :=
        hValues.append ('_' :: b.token.toList)
      simpa [labelsText, Binding.labelText, hToken]
        using hLabels

/- The same values give such bindings the same labels. -/
theorem map_label_of_isPeer
    {bindings others : List Binding}
    (hPeers : List.Forall₂ Binding.IsPeer bindings others)
    (hValues :
      (bindings.map fun b => b.value.toText) =
        others.map fun b => b.value.toText) :
    bindings.map Binding.label = others.map Binding.label := by
  induction hPeers with
  | nil => rfl
  | @cons b other bindings others hPeer _ ih =>
      rw [List.map_cons, List.map_cons, List.cons.injEq]
        at hValues
      have hLabel : b.label = other.label := by
        simp [Binding.label, hPeer.1, ToString.toString,
          hValues.1]
      rw [List.map_cons, List.map_cons, hLabel,
        ih hValues.2]

/- Labels end behind a dash. -/
theorem isDashed_labelsText
    {bindings : List Binding}
    (hSome : bindings ≠ [])
    (hAllowed :
      List.Forall₂ Binding.IsPeer bindings bindings) :
    Path.IsDashed (labelsText bindings) := by
  induction bindings with
  | nil => exact absurd rfl hSome
  | cons b bindings ih =>
      cases hAllowed with
      | cons hFirst hRest =>
          by_cases hLast : bindings = []
          · have hDashed :=
              (Path.IsDashed.of_value hFirst.2.1).append
                ('_' :: b.token.toList)
            simpa [hLast, labelsText, Binding.labelText]
              using hDashed
          · exact (ih hLast hRest).append b.labelText

namespace Sweep

variable {sweep : Sweep}

/- What stands in front of every directory name. -/
def outputFront (sweep : Sweep) : List Char :=
  if sweep.dirPrefix.toList.head? = some '/' then []
  else
    match sweep.outputRoot.text.toList.getLast? with
    | none => []
    | some last =>
        if last = '/' then sweep.outputRoot.text.toList
        else sweep.outputRoot.text.toList ++ ['/']

/- The text of a directory is a common one and the
   labels. -/
theorem text_outputDir
    (sweep : Sweep)
    (tuple : Tuple) :
    (sweep.outputDir tuple).text.toList =
      sweep.outputFront ++ sweep.dirPrefix.toList ++
        labelsText tuple.bindings := by
  have hName := tuple.toList_directoryName sweep.dirPrefix
  have hAbsolute :
      Path.isAbsolute ⟨sweep.directoryName tuple⟩ = true ↔
        sweep.dirPrefix.toList.head? = some '/' := by
    unfold Path.isAbsolute directoryName
    rw [decide_eq_true_iff, hName, List.head?_append]
    cases hHead : sweep.dirPrefix.toList.head? with
    | none =>
        simpa [Path.separator]
          using head?_labelsText tuple.bindings
    | some c => rfl
  change (sweep.outputRoot.join
    (sweep.directoryName tuple)).text.toList = _
  unfold Path.join outputFront
  by_cases hRoot :
      sweep.dirPrefix.toList.head? = some '/'
  · rw [if_pos (hAbsolute.mpr hRoot), if_pos hRoot]
    exact hName
  · rw [if_neg (hRoot ∘ hAbsolute.mp), if_neg hRoot]
    cases hLast :
        sweep.outputRoot.text.toList.getLast? with
    | none => exact hName
    | some last =>
        by_cases hSeparator : last = '/'
        · simp [hSeparator, Path.separator, directoryName,
            hName]
        · simp [hSeparator, Path.separator, directoryName,
            hName]

namespace IsValid

variable (hValid : sweep.IsValid)
include hValid

/- Two tuples bind the same tokens to allowed values. -/
theorem isPeer
    {a b : Tuple}
    (hA : a ∈ sweep.grid.tuples)
    (hB : b ∈ sweep.grid.tuples) :
    List.Forall₂ Binding.IsPeer a.bindings b.bindings :=
  isPeer_of_isOf hValid.values_valid
    (Grid.bindings_of_mem hA) (Grid.bindings_of_mem hB)

/- Directories with the same steps are those of the same
   tuple. -/
theorem eq_of_steps_eq
    {a b : Tuple}
    (hA : a ∈ sweep.grid.tuples)
    (hB : b ∈ sweep.grid.tuples)
    (hSteps :
      (sweep.outputDir a).steps =
        (sweep.outputDir b).steps) :
    a = b := by
  have hLabels := alike_labelsText (hValid.isPeer hA hB)
  have hAlike :=
    hLabels.append
      (sweep.outputFront ++ sweep.dirPrefix.toList)
  rw [← sweep.text_outputDir, ← sweep.text_outputDir]
    at hAlike
  have hText := hAlike.eq_of_steps hSteps
  rw [sweep.text_outputDir, sweep.text_outputDir,
    List.append_cancel_left_eq] at hText
  apply hValid.eq_of_directoryName_eq hA hB
  apply String.toList_injective
  unfold directoryName
  rw [Tuple.toList_directoryName,
    Tuple.toList_directoryName, hText]

/- The last piece of a directory's text has a dash. -/
theorem isDashed_outputDir
    {tuple : Tuple}
    (hTuple : tuple ∈ sweep.grid.tuples) :
    Path.IsDashed (sweep.outputDir tuple).text.toList := by
  rw [text_outputDir]
  apply Path.IsDashed.append
  exact
    isDashed_labelsText (hValid.bindings_ne_nil hTuple)
      (hValid.isPeer hTuple hTuple)

end IsValid

end Sweep

end LatencySweep
