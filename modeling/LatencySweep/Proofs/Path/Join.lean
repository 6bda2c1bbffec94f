import LatencySweep.Proofs.Path.Alike

/-
  The steps of joined paths.

  A relative text adds its steps to those of the path in
  front of it, with a separator between them or without.

  Main declarations:
    * `Path.stepsOf_append_separator`
    * `Path.steps_join`
    * `Path.components_join`
    * `Path.Alike.length_stepsOf`
-/

namespace LatencySweep

namespace Path

/- A separator keeps the steps on its sides apart. -/
theorem stepsOf_append_separator
    (front text : List Char) :
    stepsOf (front ++ '/' :: text) =
      stepsOf front ++ stepsOf text := by
  have hPieces :
      piecesOf (front ++ '/' :: text) =
        piecesOf front ++ piecesOf text :=
    List.splitOn_append_cons_self front text
  unfold stepsOf
  rw [hPieces, List.filter_append]

/- The steps of a joined path are those of its parts. -/
theorem steps_join
    (p : Path)
    {name : String}
    (hRelative : isAbsolute ⟨name⟩ = false) :
    (p / name).steps = p.steps ++ stepsOf name.toList := by
  change (p.join name).steps = _
  unfold join
  rw [if_neg (Bool.eq_false_iff.mp hRelative)]
  cases hLast : p.text.toList.getLast? with
  | none =>
      have hEmpty : p.text.toList = [] :=
        List.getLast?_eq_none_iff.mp hLast
      have hSteps : p.steps = [] := by
        rw [steps, hEmpty]
        rfl
      rw [hSteps]
      rfl
  | some last =>
      by_cases hSeparator : last = separator
      · rw [hSeparator] at hLast
        rcases List.getLast?_eq_some_iff.mp hLast with
          ⟨front, hText⟩
        have hFront : p.steps = stepsOf front := by
          rw [steps, hText]
          exact
            (stepsOf_append_separator front []).trans
              (List.append_nil _)
        rw [hFront, ← stepsOf_append_separator]
        simp [hSeparator, steps, hText, separator]
      · rw [steps, steps, ← stepsOf_append_separator]
        simp [hSeparator]

/- The front of a path does not depend on what stands behind
   its first separator. -/
theorem splitAnchor_append
    {text : List Char}
    (hSome : text ≠ [])
    (rest : List Char) :
    (splitAnchor (text ++ '/' :: rest)).1 =
      (splitAnchor text).1 := by
  unfold splitAnchor
  cases text with
  | nil => exact absurd rfl hSome
  | cons c text =>
      by_cases hRoot : c = '/'
      · rw [hRoot]
        rfl
      · by_cases hDot : c = '.'
        · rw [hDot]
          cases text with
          | nil => rfl
          | cons d text =>
              by_cases hSeparator : d = '/'
              · rw [hSeparator]
                rfl
              · simp [hSeparator]
        · simp [hRoot, hDot]

/- A relative name adds its steps to the components. -/
theorem components_join
    {p : Path}
    {name : String}
    (hText : p.text ≠ "")
    (hRelative : isAbsolute ⟨name⟩ = false) :
    (p / name).components =
      p.components ++
        (stepsOf name.toList).map componentOf := by
  have hAnchor :
      (splitAnchor (p / name).text.toList).1 =
        (splitAnchor p.text.toList).1 := by
    have hSome : p.text.toList ≠ [] := fun hNil =>
      hText (String.toList_eq_nil_iff.mp hNil)
    change (splitAnchor (p.join name).text.toList).1 = _
    unfold join
    rw [if_neg (Bool.eq_false_iff.mp hRelative)]
    cases hLast : p.text.toList.getLast? with
    | none =>
        exact absurd (List.getLast?_eq_none_iff.mp hLast) hSome
    | some last =>
        by_cases hSeparator : last = separator
        · rcases List.getLast?_eq_some_iff.mp hLast with
            ⟨front, hFront⟩
          rw [hSeparator] at hFront
          dsimp only
          rw [if_pos hSeparator, String.toList_append, hFront,
            List.append_assoc]
          by_cases hEmpty : front = []
          · rw [hEmpty]
            rfl
          · exact
              (splitAnchor_append hEmpty name.toList).trans
                (splitAnchor_append hEmpty []).symm
        · dsimp only
          rw [if_neg hSeparator, String.toList_append,
            String.toList_append, List.append_assoc]
          exact splitAnchor_append hSome name.toList
  rw [components_eq, components_eq, hAnchor,
    steps_join p hRelative, List.map_append,
    List.append_assoc]

/- Alike pieces lead through the same number of steps. -/
theorem length_filter_eq
    {pieces others : List (List Char)}
    (hAlike : List.Forall₂ PieceAlike pieces others) :
    (pieces.filter (!isIdle ·)).length =
      (others.filter (!isIdle ·)).length := by
  induction hAlike with
  | nil => rfl
  | @cons piece other pieces others hFirst _ ih =>
      rcases hFirst with rfl | ⟨hPiece, hOther⟩
      · rw [List.filter_cons, List.filter_cons]
        split
        · rw [List.length_cons, List.length_cons, ih]
        · exact ih
      · rw [List.filter_cons_of_pos (by simp [hPiece]),
          List.filter_cons_of_pos (by simp [hOther]),
          List.length_cons, List.length_cons, ih]

theorem Alike.length_stepsOf
    {text other : List Char}
    (hAlike : Alike text other) :
    (stepsOf text).length = (stepsOf other).length :=
  length_filter_eq hAlike

/- Paths with the same components have the same steps. -/
theorem steps_eq_of_components_eq
    {p other : Path}
    (hSame : p.components = other.components) :
    p.steps = other.steps := by
  have hSteps :=
    congrArg (List.filter Component.isStep) hSame
  rw [filter_isStep_components, filter_isStep_components]
    at hSteps
  exact
    (List.map_inj_right fun _ _ => componentOf_inj).mp hSteps

end Path

end LatencySweep
