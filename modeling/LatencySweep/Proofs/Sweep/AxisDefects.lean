import LatencySweep.Sweep.Validation
import Mathlib.Data.List.Induction
import Mathlib.Data.List.Nodup

/-
  The defects of axes, in the order in which they are found.

  Axes are looked at from the first on, each behind those in
  front of it. The search comes to an axis only if those in
  front of it are sound, and to a part of an axis only if
  the parts in front of that are.

  Main declarations:
    * `IsNameable`
    * `Axis.IsSound`
    * `Axis.FirstDefect`
    * `Sweep.axisDefect?_eq_some_iff`
    * `AreSound`
    * `Sweep.axesDefect?_eq_some_iff`
    * `areSound_nil_iff`
-/

namespace LatencySweep

------------------------------------------------------------
-- Texts
------------------------------------------------------------

/- The text can stand in the name of a directory. -/
def IsNameable (text : String) : Prop :=
  text ≠ "" ∧
    ∀ c ∈ text.toList, isBlank c = false ∧ c ≠ '/' ∧ c ≠ '\\'

theorem isForbidden_eq_false_iff (c : Char) :
    isForbidden c = false ↔
      isBlank c = false ∧ c ≠ '/' ∧ c ≠ '\\' := by
  simp [isForbidden, and_assoc]

theorem AxisValue.isInvalid_text_eq_false_iff
    (text : String) :
    (AxisValue.text text).isInvalid = false ↔
      IsNameable text := by
  simp only [isInvalid, Bool.or_eq_false_iff,
    decide_eq_false_iff_not, List.any_eq_false,
    Bool.not_eq_true, isForbidden_eq_false_iff]
  rfl

/- The texts among the values can stand in names. -/
def AreNameable (values : List AxisValue) : Prop :=
  ∀ text, .text text ∈ values → IsNameable text

theorem areNameable_iff (values : List AxisValue) :
    AreNameable values ↔
      ∀ value ∈ values, value.isInvalid = false := by
  constructor
  · intro hTexts value hValue
    cases value with
    | bool => rfl
    | integer => rfl
    | text text =>
        exact
          (AxisValue.isInvalid_text_eq_false_iff text).mpr
            (hTexts text hValue)
  · intro hValues text hText
    exact
      (AxisValue.isInvalid_text_eq_false_iff text).mp
        (hValues _ hText)

/- What is found first among values is a text that cannot
   stand in names, behind others that can. -/
theorem find?_isInvalid_eq_some_iff
    {values : List AxisValue}
    {value : AxisValue} :
    values.find? AxisValue.isInvalid = some value ↔
      ∃ front text back,
        value = .text text ∧
          values = front ++ .text text :: back ∧
          AreNameable front ∧ ¬ IsNameable text := by
  rw [List.find?_eq_some_iff_append]
  constructor
  · rintro ⟨hInvalid, front, back, hSplit, hFront⟩
    cases value with
    | bool => cases hInvalid
    | integer => cases hInvalid
    | text text =>
        refine ⟨front, text, back, rfl, hSplit, ?_, ?_⟩
        · rw [areNameable_iff]
          intro other hOther
          simpa using hFront other hOther
        · rw [← AxisValue.isInvalid_text_eq_false_iff,
            hInvalid]
          exact Bool.noConfusion
  · rintro ⟨front, text, back, rfl, hSplit, hFront, hText⟩
    rw [areNameable_iff] at hFront
    rw [← AxisValue.isInvalid_text_eq_false_iff,
      Bool.not_eq_false] at hText
    refine ⟨hText, front, back, hSplit, ?_⟩
    intro other hOther
    simp [hFront other hOther]

------------------------------------------------------------
-- Single Axes
------------------------------------------------------------

namespace Axis

/- The axis has values that can stand in names, and shares
   nothing with the axes in front of it. -/
structure IsSound
    (earlier : List Axis)
    (axis : Axis) : Prop where
  values : axis.values ≠ []
  name : axis.name ∉ earlier.map Axis.name
  flag : axis.flag ∉ earlier.map Axis.flag
  token : axis.token ∉ earlier.map Axis.token
  texts : AreNameable axis.values

/- What is wrong first with an axis behind others. -/
inductive FirstDefect
    (earlier : List Axis)
    (axis : Axis) : SweepDefect → Prop where
  | empty
      (hEmpty : axis.values = []) :
      FirstDefect earlier axis (.emptyAxis axis.name)
  | name
      (hValues : axis.values ≠ [])
      (hName : axis.name ∈ earlier.map Axis.name) :
      FirstDefect earlier axis
        (.duplicateAxis .name axis.name)
  | flag
      (hValues : axis.values ≠ [])
      (hName : axis.name ∉ earlier.map Axis.name)
      (hFlag : axis.flag ∈ earlier.map Axis.flag) :
      FirstDefect earlier axis
        (.duplicateAxis .flag axis.flag)
  | token
      (hValues : axis.values ≠ [])
      (hName : axis.name ∉ earlier.map Axis.name)
      (hFlag : axis.flag ∉ earlier.map Axis.flag)
      (hToken : axis.token ∈ earlier.map Axis.token) :
      FirstDefect earlier axis
        (.duplicateAxis .token axis.token)
  | value
      (hName : axis.name ∉ earlier.map Axis.name)
      (hFlag : axis.flag ∉ earlier.map Axis.flag)
      (hToken : axis.token ∉ earlier.map Axis.token)
      {front back : List AxisValue}
      {text : String}
      (hSplit : axis.values = front ++ .text text :: back)
      (hFront : AreNameable front)
      (hText : ¬ IsNameable text) :
      FirstDefect earlier axis (.invalidValue axis.name text)

end Axis

namespace Sweep

/- Keys are compared by name, flag and token, in this
   order. -/
theorem sharedKey?_eq
    (earlier : List Axis)
    (axis : Axis) :
    sharedKey? earlier axis =
      if axis.name ∈ earlier.map Axis.name then some .name
      else if axis.flag ∈ earlier.map Axis.flag then
        some .flag
      else if axis.token ∈ earlier.map Axis.token then
        some .token
      else none := by
  have hShared (key : AxisKey) :
      (earlier.any fun other =>
          key.ofAxis other = key.ofAxis axis) =
        decide
          (key.ofAxis axis ∈ earlier.map key.ofAxis) := by
    rw [Bool.eq_iff_iff]
    simp
  simp only [sharedKey?, AxisKey.all, List.find?, hShared]
  simp only [AxisKey.ofAxis]
  by_cases hName : axis.name ∈ earlier.map Axis.name
  · simp [hName]
  · by_cases hFlag : axis.flag ∈ earlier.map Axis.flag
    · simp [hName, hFlag]
    · by_cases hToken : axis.token ∈ earlier.map Axis.token
      · simp [hName, hFlag, hToken]
      · simp [hName, hFlag, hToken]

/- The defect that is found is the first one of the axis. -/
theorem axisDefect?_eq_some_iff
    {earlier : List Axis}
    {axis : Axis}
    {defect : SweepDefect} :
    axisDefect? earlier axis = some defect ↔
      axis.FirstDefect earlier defect := by
  rw [axisDefect?, sharedKey?_eq]
  constructor
  · intro hDefect
    split at hDefect
    next hEmpty =>
      cases hDefect
      exact .empty hEmpty
    next hValues =>
      by_cases hName : axis.name ∈ earlier.map Axis.name
      · rw [if_pos hName] at hDefect
        cases hDefect
        exact .name hValues hName
      rw [if_neg hName] at hDefect
      by_cases hFlag : axis.flag ∈ earlier.map Axis.flag
      · rw [if_pos hFlag] at hDefect
        cases hDefect
        exact .flag hValues hName hFlag
      rw [if_neg hFlag] at hDefect
      by_cases hToken : axis.token ∈ earlier.map Axis.token
      · rw [if_pos hToken] at hDefect
        cases hDefect
        exact .token hValues hName hFlag hToken
      rw [if_neg hToken] at hDefect
      rcases Option.map_eq_some_iff.mp hDefect with
        ⟨value, hFound, rfl⟩
      rcases find?_isInvalid_eq_some_iff.mp hFound with
        ⟨front, text, back, rfl, hSplit, hFront, hText⟩
      exact .value hName hFlag hToken hSplit hFront hText
  · intro hDefect
    cases hDefect with
    | empty hEmpty => rw [if_pos hEmpty]
    | name hValues hName =>
        rw [if_neg hValues, if_pos hName]
        rfl
    | flag hValues hName hFlag =>
        rw [if_neg hValues, if_neg hName, if_pos hFlag]
        rfl
    | token hValues hName hFlag hToken =>
        rw [if_neg hValues, if_neg hName, if_neg hFlag,
          if_pos hToken]
        rfl
    | @value hName hFlag hToken front back text hSplit hFront
        hText =>
        have hValues : axis.values ≠ [] := by
          rw [hSplit]
          exact List.append_ne_nil_of_right_ne_nil _
            (List.cons_ne_nil _ _)
        have hFound :
            axis.values.find? AxisValue.isInvalid =
              some (.text text) :=
          find?_isInvalid_eq_some_iff.mpr
            ⟨front, text, back, rfl, hSplit, hFront, hText⟩
        rw [if_neg hValues, if_neg hName, if_neg hFlag,
          if_neg hToken]
        dsimp only
        rw [hFound]
        rfl

/- No defect is found in sound axes, and in no others. -/
theorem axisDefect?_eq_none_iff
    {earlier : List Axis}
    {axis : Axis} :
    axisDefect? earlier axis = none ↔
      axis.IsSound earlier := by
  constructor
  · intro hNone
    have hNot (defect : SweepDefect) :
        ¬ axis.FirstDefect earlier defect := by
      rw [← axisDefect?_eq_some_iff, hNone]
      exact nofun
    have hValues : axis.values ≠ [] :=
      fun hEmpty => hNot _ (.empty hEmpty)
    have hName : axis.name ∉ earlier.map Axis.name :=
      fun hName => hNot _ (.name hValues hName)
    have hFlag : axis.flag ∉ earlier.map Axis.flag :=
      fun hFlag => hNot _ (.flag hValues hName hFlag)
    have hToken : axis.token ∉ earlier.map Axis.token :=
      fun hToken =>
        hNot _ (.token hValues hName hFlag hToken)
    refine ⟨hValues, hName, hFlag, hToken, ?_⟩
    rw [axisDefect?, sharedKey?_eq, if_neg hValues,
      if_neg hName, if_neg hFlag, if_neg hToken,
      Option.map_eq_none_iff, List.find?_eq_none] at hNone
    rw [areNameable_iff]
    intro value hValue
    exact Bool.eq_false_iff.mpr (hNone value hValue)
  · intro hSound
    rw [Option.eq_none_iff_forall_ne_some]
    intro defect hDefect
    rw [axisDefect?_eq_some_iff] at hDefect
    cases hDefect with
    | empty hEmpty => exact hSound.values hEmpty
    | name _ hName => exact hSound.name hName
    | flag _ _ hFlag => exact hSound.flag hFlag
    | token _ _ _ hToken => exact hSound.token hToken
    | value _ _ _ hSplit _ hText =>
        apply hText
        apply hSound.texts
        rw [hSplit]
        exact List.mem_append_right _ List.mem_cons_self

end Sweep

------------------------------------------------------------
-- Axes in a Row
------------------------------------------------------------

/- Each of the axes is sound behind the given ones and those
   in front of it. -/
def AreSound (earlier axes : List Axis) : Prop :=
  ∀ front axis back, axes = front ++ axis :: back →
    axis.IsSound (earlier ++ front)

theorem areSound_cons_iff
    {earlier axes : List Axis}
    {first : Axis} :
    AreSound earlier (first :: axes) ↔
      first.IsSound earlier ∧
        AreSound (earlier ++ [first]) axes := by
  constructor
  · intro hSound
    refine ⟨?_, ?_⟩
    · have hFirst := hSound [] first axes rfl
      rwa [List.append_nil] at hFirst
    · rintro front axis back rfl
      have hAxis := hSound (first :: front) axis back rfl
      rwa [List.append_cons] at hAxis
  · rintro ⟨hFirst, hRest⟩ front axis back hSplit
    cases front with
    | nil =>
        cases hSplit
        rwa [List.append_nil]
    | cons other front =>
        cases hSplit
        rw [List.append_cons]
        exact hRest front axis back rfl

namespace Sweep

/- The defect that is found is the first one of the first
   axis that is not sound. -/
theorem axesDefect?_eq_some_iff
    {earlier axes : List Axis}
    {defect : SweepDefect} :
    axesDefect? earlier axes = some defect ↔
      ∃ front axis back,
        axes = front ++ axis :: back ∧
          AreSound earlier front ∧
          axis.FirstDefect (earlier ++ front) defect := by
  induction axes generalizing earlier with
  | nil => simp [axesDefect?]
  | cons first axes ih =>
      rw [axesDefect?, Option.or_eq_some_iff,
        axisDefect?_eq_some_iff, axisDefect?_eq_none_iff, ih]
      constructor
      · rintro (hFirst |
          ⟨hFirst, front, axis, back, rfl, hFront, hAxis⟩)
        · refine ⟨[], first, axes, rfl, ?_, ?_⟩
          · rintro front axis back hSplit
            simp at hSplit
          · rwa [List.append_nil]
        · refine ⟨first :: front, axis, back, rfl, ?_, ?_⟩
          · exact areSound_cons_iff.mpr ⟨hFirst, hFront⟩
          · rwa [List.append_cons]
      · rintro ⟨front, axis, back, hSplit, hFront, hAxis⟩
        cases front with
        | nil =>
            cases hSplit
            rw [List.append_nil] at hAxis
            exact Or.inl hAxis
        | cons other front =>
            cases hSplit
            rw [areSound_cons_iff] at hFront
            rw [List.append_cons] at hAxis
            exact
              Or.inr
                ⟨hFront.1, front, axis, back, rfl, hFront.2,
                  hAxis⟩

theorem axesDefect?_eq_none_iff
    {earlier axes : List Axis} :
    axesDefect? earlier axes = none ↔
      AreSound earlier axes := by
  induction axes generalizing earlier with
  | nil => simp [axesDefect?, AreSound]
  | cons first axes ih =>
      rw [axesDefect?, Option.or_eq_none_iff,
        axisDefect?_eq_none_iff, ih, areSound_cons_iff]

end Sweep

------------------------------------------------------------
-- Sound Axes
------------------------------------------------------------

/- What differs from everything in front of it differs
   throughout. -/
theorem nodup_map_iff
    {axes : List Axis}
    (key : Axis → String) :
    (axes.map key).Nodup ↔
      ∀ front axis back, axes = front ++ axis :: back →
        key axis ∉ front.map key := by
  constructor
  · rintro hNodup front axis back rfl hShared
    rw [List.map_append, List.map_cons] at hNodup
    exact
      (List.nodup_append.mp hNodup).2.2 _ hShared _
        List.mem_cons_self rfl
  · intro hNew
    induction axes using List.reverseRecOn with
    | nil => exact List.nodup_nil
    | append_singleton axes last ih =>
        rw [List.map_append, List.map_singleton,
          ← List.concat_eq_append]
        apply List.Nodup.concat
        · exact hNew axes last [] rfl
        · apply ih
          rintro front axis back rfl
          apply hNew front axis (back ++ [last])
          rw [List.append_assoc, List.cons_append]

/- Axes are sound if they have values that can stand in
   names and share neither names nor flags nor tokens. -/
theorem areSound_nil_iff (axes : List Axis) :
    AreSound [] axes ↔
      (∀ axis ∈ axes, axis.values ≠ []) ∧
        (axes.map Axis.name).Nodup ∧
        (axes.map Axis.flag).Nodup ∧
        (axes.map Axis.token).Nodup ∧
        ∀ axis ∈ axes, AreNameable axis.values := by
  constructor
  · intro hSound
    refine ⟨?_, ?_, ?_, ?_, ?_⟩
    · intro axis hAxis
      rcases List.append_of_mem hAxis with
        ⟨front, back, hSplit⟩
      exact (hSound front axis back hSplit).values
    · rw [nodup_map_iff]
      intro front axis back hSplit
      exact (hSound front axis back hSplit).name
    · rw [nodup_map_iff]
      intro front axis back hSplit
      exact (hSound front axis back hSplit).flag
    · rw [nodup_map_iff]
      intro front axis back hSplit
      exact (hSound front axis back hSplit).token
    · intro axis hAxis
      rcases List.append_of_mem hAxis with
        ⟨front, back, hSplit⟩
      exact (hSound front axis back hSplit).texts
  · rintro ⟨hValues, hNames, hFlags, hTokens, hTexts⟩
    rw [nodup_map_iff] at hNames hFlags hTokens
    intro front axis back hSplit
    have hAxis : axis ∈ axes := by
      rw [hSplit]
      exact List.mem_append_right _ List.mem_cons_self
    exact
      { values := hValues axis hAxis
        name := hNames front axis back hSplit
        flag := hFlags front axis back hSplit
        token := hTokens front axis back hSplit
        texts := hTexts axis hAxis }

end LatencySweep
