import LatencySweep.Proofs.Path.Steps
import Mathlib.Data.List.Forall2

/-
  Texts whose steps tell them apart.

  Two texts are alike if their pieces agree wherever one of
  them is idle. Texts that differ only in values behind a
  dash are alike, and alike texts with the same steps are
  the same.

  Main declarations:
    * `Path.Alike`
    * `Path.Alike.append`
    * `Path.Alike.value`
    * `Path.Alike.eq_of_steps`
    * `Path.IsDashed`
-/

namespace LatencySweep

namespace Path

------------------------------------------------------------
-- Values in Front of a Text
------------------------------------------------------------

/- A text without separators goes in front of the first
   piece. -/
theorem exists_piecesOf_append
    {value : List Char}
    (text : List Char)
    (hValue : '/' ∉ value) :
    ∃ piece pieces,
      piecesOf text = piece :: pieces ∧
        piecesOf (value ++ text) =
          (value ++ piece) :: pieces := by
  induction value with
  | nil =>
      rcases List.exists_cons_of_ne_nil
          (piecesOf_ne_nil text) with
        ⟨piece, pieces, hPieces⟩
      exact ⟨piece, pieces, hPieces, hPieces⟩
  | cons c value ih =>
      rw [List.mem_cons, not_or] at hValue
      rcases ih hValue.2 with
        ⟨piece, pieces, hPieces, hRest⟩
      rcases exists_piecesOf_cons (value ++ text)
          (fun hSame => hValue.1 hSame.symm) with
        ⟨first, others, hFirst, hCons⟩
      rw [hRest] at hFirst
      cases hFirst
      exact ⟨piece, pieces, hPieces, hCons⟩

------------------------------------------------------------
-- Alike Texts
------------------------------------------------------------

/- Two pieces are the same unless both are steps. -/
def PieceAlike (piece other : List Char) : Prop :=
  piece = other ∨
    isIdle piece = false ∧ isIdle other = false

/- Two texts are alike piece by piece. -/
def Alike (text other : List Char) : Prop :=
  List.Forall₂ PieceAlike (piecesOf text) (piecesOf other)

/- A longer piece that starts with a step is a step. -/
theorem isIdle_cons
    {c : Char}
    {piece : List Char}
    (hPiece : isIdle piece = false) :
    isIdle (c :: piece) = false := by
  cases piece with
  | nil => cases hPiece
  | cons d piece => simp [isIdle]

/- Alike pieces with the same steps are the same. -/
theorem eq_of_filter_eq
    {pieces others : List (List Char)}
    (hAlike : List.Forall₂ PieceAlike pieces others)
    (hSteps :
      pieces.filter (!isIdle ·) =
        others.filter (!isIdle ·)) :
    pieces = others := by
  induction hAlike with
  | nil => rfl
  | @cons piece other pieces others hFirst _ ih =>
      rcases hFirst with rfl | ⟨hPiece, hOther⟩
      · rw [List.filter_cons, List.filter_cons] at hSteps
        split at hSteps
        · rw [ih (List.cons.inj hSteps).2]
        · rw [ih hSteps]
      · rw [List.filter_cons_of_pos (by simp [hPiece]),
          List.filter_cons_of_pos (by simp [hOther])]
          at hSteps
        rcases List.cons.inj hSteps with ⟨rfl, hRest⟩
        rw [ih hRest]

namespace Alike

variable {text other : List Char}

theorem refl (text : List Char) : Alike text text :=
  List.forall₂_same.mpr fun _ _ => Or.inl rfl

/- The same character in front keeps texts alike. -/
theorem cons
    (c : Char)
    (hAlike : Alike text other) :
    Alike (c :: text) (c :: other) := by
  by_cases hSeparator : c = '/'
  · rw [hSeparator]
    unfold Alike
    rw [piecesOf_cons_separator, piecesOf_cons_separator]
    exact .cons (Or.inl rfl) hAlike
  · rcases exists_piecesOf_cons text hSeparator with
      ⟨piece, pieces, hText, hCons⟩
    rcases exists_piecesOf_cons other hSeparator with
      ⟨piece', pieces', hOther, hCons'⟩
    unfold Alike at hAlike ⊢
    rw [hText, hOther] at hAlike
    rw [hCons, hCons']
    cases hAlike with
    | cons hFirst hRest =>
        refine .cons ?_ hRest
        rcases hFirst with rfl | ⟨hPiece, hPiece'⟩
        · exact Or.inl rfl
        · exact
            Or.inr ⟨isIdle_cons hPiece, isIdle_cons hPiece'⟩

/- So does the same text in front. -/
theorem append
    (front : List Char)
    (hAlike : Alike text other) :
    Alike (front ++ text) (front ++ other) := by
  induction front with
  | nil => exact hAlike
  | cons c front ih => exact ih.cons c

/- So do values behind a dash. -/
theorem value
    {value value' : List Char}
    (hValue : '/' ∉ value)
    (hValue' : '/' ∉ value')
    (hAlike : Alike text other) :
    Alike ('-' :: value ++ text) ('-' :: value' ++ other) := by
  have hDash : '/' ∉ '-' :: value := by simp [hValue]
  have hDash' : '/' ∉ '-' :: value' := by simp [hValue']
  rcases exists_piecesOf_append text hDash with
    ⟨piece, pieces, hText, hFront⟩
  rcases exists_piecesOf_append other hDash' with
    ⟨piece', pieces', hOther, hFront'⟩
  unfold Alike at hAlike ⊢
  rw [hText, hOther] at hAlike
  rw [hFront, hFront']
  cases hAlike with
  | cons _ hRest =>
      exact .cons (Or.inr (by simp [isIdle])) hRest

/- Alike texts with the same steps are the same. -/
theorem eq_of_steps
    (hAlike : Alike text other)
    (hSteps : stepsOf text = stepsOf other) :
    text = other :=
  piecesOf_inj (eq_of_filter_eq hAlike hSteps)

end Alike

------------------------------------------------------------
-- Dashes in the Last Piece
------------------------------------------------------------

/- The last piece of the text has a dash. -/
def IsDashed (text : List Char) : Prop :=
  ∀ piece, (piecesOf text).getLast? = some piece → '-' ∈ piece

namespace IsDashed

theorem of_value
    {value : List Char}
    (hValue : '/' ∉ value) :
    IsDashed ('-' :: value) := by
  have hDash : separator ∉ '-' :: value := by
    simp [separator, hValue]
  intro piece hPiece
  rw [piecesOf_of_notMem hDash] at hPiece
  cases hPiece
  exact List.mem_cons_self

theorem cons
    {text : List Char}
    (c : Char)
    (hText : IsDashed text) :
    IsDashed (c :: text) := by
  intro piece hPiece
  by_cases hSeparator : c = '/'
  · rw [hSeparator, piecesOf_cons_separator,
      List.getLast?_cons_of_ne_nil (piecesOf_ne_nil text)]
      at hPiece
    exact hText piece hPiece
  · rcases exists_piecesOf_cons text hSeparator with
      ⟨first, others, hFirst, hCons⟩
    unfold IsDashed at hText
    rw [hCons] at hPiece
    rw [hFirst] at hText
    cases others with
    | nil =>
        cases hPiece
        exact List.mem_cons_of_mem _ (hText first rfl)
    | cons second others =>
        rw [List.getLast?_cons_cons] at hPiece hText
        exact hText piece hPiece

theorem append
    {text : List Char}
    (front : List Char)
    (hText : IsDashed text) :
    IsDashed (front ++ text) := by
  induction front with
  | nil => exact hText
  | cons c front ih => exact ih.cons c

end IsDashed

end Path

end LatencySweep
