import LatencySweep.Proofs.Path.Steps
import Mathlib.Data.List.DropRight

/-
  The parent of a path takes back its last step.

  Main declarations:
    * `Path.steps_parent`
    * `Path.isAbsolute_parent`
-/

namespace LatencySweep

namespace Path

------------------------------------------------------------
-- Idle Ends
------------------------------------------------------------

theorem dropIdleEnd_eq (pieces : List (List Char)) :
    dropIdleEnd pieces = pieces.rdropWhile isIdle := rfl

theorem dropIdleEnd_isPrefix (pieces : List (List Char)) :
    dropIdleEnd pieces <+: pieces := by
  rw [dropIdleEnd_eq]
  exact List.rdropWhile_prefix isIdle pieces

/- Idle pieces at the end lead nowhere. -/
theorem filter_dropIdleEnd (pieces : List (List Char)) :
    (dropIdleEnd pieces).filter (!isIdle ·) =
      pieces.filter (!isIdle ·) := by
  rw [dropIdleEnd_eq]
  induction pieces using List.reverseRecOn with
  | nil => rfl
  | append_singleton pieces piece ih =>
      cases hIdle : isIdle piece with
      | true =>
          rw [List.rdropWhile_concat_pos _ _ _ hIdle, ih]
          simp [hIdle]
      | false =>
          rw [List.rdropWhile_concat_neg]
          simp [hIdle]

/- Behind them, the last piece is a step. -/
theorem filter_dropLast_dropIdleEnd
    (pieces : List (List Char)) :
    (dropIdleEnd pieces).dropLast.filter (!isIdle ·) =
      (pieces.filter (!isIdle ·)).dropLast := by
  rw [← filter_dropIdleEnd pieces]
  by_cases hNone : dropIdleEnd pieces = []
  · rw [hNone]
    rfl
  · have hLast :
        isIdle ((dropIdleEnd pieces).getLast hNone) =
          false := by
      have hStep :=
        List.rdropWhile_last_not isIdle pieces hNone
      exact Bool.eq_false_iff.mpr hStep
    have hSplit :=
      (List.dropLast_append_getLast hNone).symm
    have hFilter :=
      congrArg (List.filter (!isIdle ·)) hSplit
    rw [List.filter_append] at hFilter
    rw [hFilter]
    simp [hLast]

------------------------------------------------------------
-- Parents
------------------------------------------------------------

/- The front of a path, and the pieces of its parent. -/
theorem exists_parent_pieces
    {p parent : Path}
    (hParent : p.parent? = some parent)
    (hText : parent.text ≠ "") :
    ∃ anchor body pieces,
      splitAnchor p.text.toList = (anchor, body) ∧
        pieces <+: piecesOf body ∧
        pieces = dropIdleEnd pieces ∧
        pieces.filter (!isIdle ·) =
          (stepsOf body).dropLast ∧
        parent.text.toList =
          anchor ++ [separator].intercalate pieces := by
  unfold parent? at hParent
  rcases hSplit : splitAnchor p.text.toList with
    ⟨anchor, body⟩
  have hPieces : p.bodyPieces = dropIdleEnd (piecesOf body) := by
    rw [bodyPieces, hSplit]
  rw [hSplit, hPieces] at hParent
  dsimp only at hParent
  split at hParent
  next hNone =>
    split at hParent
    next =>
      cases hParent
      exact absurd rfl hText
    next => cases hParent
  next hSome =>
    cases hParent
    refine
      ⟨anchor, body,
        dropIdleEnd (dropIdleEnd (piecesOf body)).dropLast,
        rfl, ?_, ?_, ?_, String.toList_ofList⟩
    · have hBody := dropIdleEnd_isPrefix (piecesOf body)
      have hFront :=
        List.dropLast_prefix (dropIdleEnd (piecesOf body))
      exact
        ((dropIdleEnd_isPrefix _).trans hFront).trans hBody
    · simp only [dropIdleEnd_eq, List.rdropWhile_idempotent]
    · rw [filter_dropIdleEnd, filter_dropLast_dropIdleEnd]
      rfl

/- The three kinds of fronts. -/
theorem splitAnchor_cases
    {text anchor body : List Char}
    (hSplit : splitAnchor text = (anchor, body)) :
    anchor = ['/'] ∧ text.head? = some '/' ∨
      anchor = ['.'] ∧ text.head? = some '.' ∧
        (body = [] ∨ ∃ rest, body = '/' :: rest) ∨
      anchor = [] ∧ text = body ∧ body.head? ≠ some '/' := by
  unfold splitAnchor at hSplit
  split at hSplit <;> cases hSplit
  next => simp
  next => simp
  next => simp
  next hRoot _ _ =>
    refine Or.inr (Or.inr ⟨rfl, rfl, ?_⟩)
    intro hHead
    rcases List.head?_eq_some_iff.mp hHead with
      ⟨rest, hText⟩
    exact hRoot rest hText

/- Joined pieces of a text are split as they were. -/
theorem piecesOf_intercalate
    {body : List Char}
    {pieces : List (List Char)}
    (hPrefix : pieces <+: piecesOf body)
    (hSome : pieces ≠ []) :
    piecesOf ([separator].intercalate pieces) = pieces := by
  apply List.splitOn_intercalate separator _ hSome
  intro piece hPiece
  exact notMem_of_mem_piecesOf (hPrefix.subset hPiece)

theorem stepsOf_intercalate
    {body : List Char}
    {pieces : List (List Char)}
    (hPrefix : pieces <+: piecesOf body) :
    stepsOf ([separator].intercalate pieces) =
      pieces.filter (!isIdle ·) := by
  by_cases hNone : pieces = []
  · rw [hNone]
    rfl
  · rw [stepsOf, piecesOf_intercalate hPrefix hNone]

/- Behind a front of one dot stands a separator or
   nothing. -/
theorem intercalate_behind_dot
    {body : List Char}
    {pieces : List (List Char)}
    (hBody : body = [] ∨ ∃ rest, body = '/' :: rest)
    (hPrefix : pieces <+: piecesOf body)
    (hEnd : pieces = dropIdleEnd pieces) :
    [separator].intercalate pieces = [] ∨
      ∃ rest,
        [separator].intercalate pieces = '/' :: rest := by
  have hFirst : ∃ rest, piecesOf body = [] :: rest := by
    rcases hBody with rfl | ⟨rest, rfl⟩
    · exact ⟨[], rfl⟩
    · exact ⟨piecesOf rest, piecesOf_cons_separator rest⟩
  rcases hFirst with ⟨rest, hRest⟩
  rw [hRest] at hPrefix
  cases pieces with
  | nil => exact Or.inl rfl
  | cons first others =>
      cases List.cons_prefix_cons.mp hPrefix |>.1
      cases others with
      | nil => cases hEnd
      | cons second others =>
          rw [List.intercalate_cons_cons]
          exact Or.inr ⟨_, rfl⟩

/- The parent of a path lacks its last step. -/
theorem steps_parent
    {p parent : Path}
    (hParent : p.parent? = some parent)
    (hText : parent.text ≠ "") :
    parent.steps = p.steps.dropLast := by
  rcases exists_parent_pieces hParent hText with
    ⟨anchor, body, pieces, hSplit, hPrefix, hEnd, hSteps,
      hParentText⟩
  have hBody : stepsOf body = p.steps := by
    have hSplitSteps := stepsOf_splitAnchor p.text.toList
    rwa [hSplit] at hSplitSteps
  have hJoined := stepsOf_intercalate hPrefix
  rw [steps, hParentText, ← hBody, ← hSteps, ← hJoined]
  rcases splitAnchor_cases hSplit with
    ⟨rfl, _⟩ | ⟨rfl, _, hDot⟩ | ⟨rfl, _, _⟩
  · exact stepsOf_cons_separator _
  · rcases intercalate_behind_dot hDot hPrefix hEnd with
      hNone | ⟨rest, hRest⟩
    · rw [hNone]
      rfl
    · rw [hRest, stepsOf_cons_separator]
      exact stepsOf_dot_separator rest
  · rfl

/- A text whose first pieces make an absolute text starts
   with a separator itself. -/
theorem head?_of_intercalate
    {body rest : List Char}
    {pieces : List (List Char)}
    (hPrefix : pieces <+: piecesOf body)
    (hRoot :
      [separator].intercalate pieces = '/' :: rest) :
    body.head? = some '/' := by
  have hSome : pieces ≠ [] := by
    rintro rfl
    cases hRoot
  have hPieces := piecesOf_intercalate hPrefix hSome
  rw [hRoot, piecesOf_cons_separator] at hPieces
  rw [← hPieces] at hPrefix
  cases body with
  | nil =>
      have hNone :=
        (List.cons_prefix_cons.mp hPrefix).2
      exact absurd (List.prefix_nil.mp hNone)
        (piecesOf_ne_nil rest)
  | cons c body =>
      by_cases hSeparator : c = '/'
      · rw [hSeparator]
        rfl
      · rcases exists_piecesOf_cons body hSeparator with
          ⟨first, others, _, hCons⟩
        rw [hCons] at hPrefix
        cases (List.cons_prefix_cons.mp hPrefix).1

/- It starts at the root if the path does. -/
theorem isAbsolute_parent
    {p parent : Path}
    (hParent : p.parent? = some parent)
    (hText : parent.text ≠ "") :
    parent.isAbsolute = p.isAbsolute := by
  rcases exists_parent_pieces hParent hText with
    ⟨anchor, body, pieces, hSplit, hPrefix, _, _,
      hParentText⟩
  unfold isAbsolute
  rw [hParentText]
  rcases splitAnchor_cases hSplit with
    ⟨rfl, hHead⟩ | ⟨rfl, hHead, _⟩ | ⟨rfl, hSame, hHead⟩
  · simp [hHead, separator]
  · simp [hHead, separator]
  · rw [hSame, List.nil_append]
    have hFirst :
        ([separator].intercalate pieces).head? ≠
          some separator := by
      intro hRoot
      rcases List.head?_eq_some_iff.mp hRoot with
        ⟨rest, hRest⟩
      exact hHead (head?_of_intercalate hPrefix hRest)
    rw [decide_eq_false hFirst]
    exact (decide_eq_false hHead).symm

end Path

end LatencySweep
