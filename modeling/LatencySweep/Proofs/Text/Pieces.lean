import LatencySweep.Proofs.Text.Words

/-
  The words of a text are its pieces between blanks.

  A text is cut by going along it: first blanks, then a
  piece without a blank that goes on as far as it can, then
  what is left. There is only one way to do this, whichever
  blanks stand around the pieces, and it gives the words.

  Main declarations:
    * `IsCutInto`
    * `exists_isCutInto`
    * `isCutInto_iff`
    * `allBlank_eq_true_iff`
-/

namespace LatencySweep

------------------------------------------------------------
-- Cuts
------------------------------------------------------------

/- All characters of the text are blank. -/
def IsGap (text : List Char) : Prop :=
  ∀ c ∈ text, isBlank c = true

/- No piece goes on into the text. -/
def EndsPiece (text : List Char) : Prop :=
  ∀ c, text.head? = some c → isBlank c = true

/- The text has these pieces between its blanks. -/
inductive IsCutInto : List Char → List (List Char) → Prop where
  | gap
      {text : List Char}
      (hGap : IsGap text) :
      IsCutInto text []
  | piece
      {gap piece rest : List Char}
      {pieces : List (List Char)}
      (hGap : IsGap gap)
      (hSome : piece ≠ [])
      (hFree : IsBlankFree piece)
      (hEnds : EndsPiece rest)
      (hRest : IsCutInto rest pieces) :
      IsCutInto (gap ++ (piece ++ rest)) (piece :: pieces)

variable {text : List Char} {pieces : List (List Char)}

/- A blank in front of a text does not change its pieces. -/
theorem IsCutInto.cons_blank
    {c : Char}
    (hBlank : isBlank c = true)
    (hCut : IsCutInto text pieces) :
    IsCutInto (c :: text) pieces := by
  cases hCut with
  | gap hGap =>
      exact .gap (List.forall_mem_cons.mpr ⟨hBlank, hGap⟩)
  | @piece gap piece rest pieces hGap hSome hFree hEnds hRest =>
      have hLonger : IsGap (c :: gap) :=
        List.forall_mem_cons.mpr ⟨hBlank, hGap⟩
      exact .piece hLonger hSome hFree hEnds hRest

/- Any other character in front goes on with the first piece,
   or is one of its own if a blank follows it. -/
theorem IsCutInto.exists_cons
    {c : Char}
    (hOther : isBlank c = false)
    (hCut : IsCutInto text pieces) :
    ∃ others, IsCutInto (c :: text) others := by
  have hAlone (hEnds : EndsPiece text) :
      IsCutInto (c :: text) ([c] :: pieces) :=
    @IsCutInto.piece [] [c] text pieces nofun
      (List.cons_ne_nil c [])
      (List.forall_mem_singleton.mpr hOther) hEnds hCut
  cases hCut with
  | gap hGap =>
      refine ⟨_, hAlone ?_⟩
      intro first hFirst
      exact hGap first (List.mem_of_head? hFirst)
  | @piece gap piece rest pieces hGap hSome hFree hEnds hRest =>
      cases gap with
      | nil =>
          have hLonger : IsBlankFree (c :: piece) :=
            List.forall_mem_cons.mpr ⟨hOther, hFree⟩
          exact
            ⟨(c :: piece) :: pieces,
              @IsCutInto.piece [] (c :: piece) rest pieces nofun
                (List.cons_ne_nil c piece) hLonger hEnds hRest⟩
      | cons first gap =>
          refine ⟨_, hAlone ?_⟩
          intro other hFirst
          cases hFirst
          exact hGap first List.mem_cons_self

/- Every text can be cut. -/
theorem exists_isCutInto (text : List Char) :
    ∃ pieces, IsCutInto text pieces := by
  induction text with
  | nil => exact ⟨[], .gap nofun⟩
  | cons c text ih =>
      rcases ih with ⟨pieces, hCut⟩
      cases hBlank : isBlank c with
      | true => exact ⟨pieces, hCut.cons_blank hBlank⟩
      | false => exact hCut.exists_cons hBlank

------------------------------------------------------------
-- Words
------------------------------------------------------------

/- Blanks in front of a text have no words. -/
theorem words_gap_append
    {gap : List Char}
    (hGap : IsGap gap)
    (text : List Char) :
    words (gap ++ text) = words text := by
  induction gap with
  | nil => rfl
  | cons c gap ih =>
      rw [IsGap, List.forall_mem_cons] at hGap
      have hSplit := words_behind_blank hGap.1 [] (gap ++ text)
      rw [List.nil_append] at hSplit
      rw [List.cons_append, hSplit, ih hGap.2]
      rfl

theorem words_of_gap
    (hGap : IsGap text) :
    words text = [] := by
  have hWords := words_gap_append hGap []
  rwa [List.append_nil] at hWords

/- A piece is a word where it ends. -/
theorem words_piece_append
    {piece rest : List Char}
    (hSome : piece ≠ [])
    (hFree : IsBlankFree piece)
    (hEnds : EndsPiece rest) :
    words (piece ++ rest) = piece :: words rest := by
  cases rest with
  | nil =>
      rw [List.append_nil, words_of_blankFree hSome hFree]
      rfl
  | cons c rest =>
      have hBlank : isBlank c = true := hEnds c rfl
      have hBehind := words_behind_blank hBlank [] rest
      rw [List.nil_append] at hBehind
      rw [words_behind_blank hBlank, hBehind,
        words_of_blankFree hSome hFree]
      rfl

/- The pieces of a text are its words. -/
theorem IsCutInto.words_eq
    (hCut : IsCutInto text pieces) :
    words text = pieces := by
  induction hCut with
  | gap hGap => exact words_of_gap hGap
  | piece hGap hSome hFree hEnds _ ih =>
      rw [words_gap_append hGap,
        words_piece_append hSome hFree hEnds, ih]

theorem isCutInto_words (text : List Char) :
    IsCutInto text (words text) := by
  rcases exists_isCutInto text with ⟨pieces, hCut⟩
  rwa [hCut.words_eq]

/- There is one way to cut a text. -/
theorem isCutInto_iff :
    IsCutInto text pieces ↔ words text = pieces := by
  constructor
  · exact IsCutInto.words_eq
  · rintro rfl
    exact isCutInto_words text

/- A text that has no pieces is blank. -/
theorem allBlank_eq_true_iff :
    allBlank text = true ↔ IsGap text :=
  List.all_eq_true

theorem isGap_iff_words_eq_nil :
    IsGap text ↔ words text = [] := by
  constructor
  · exact words_of_gap
  · intro hNone
    rw [← isCutInto_iff] at hNone
    cases hNone with
    | gap hGap => exact hGap

end LatencySweep
