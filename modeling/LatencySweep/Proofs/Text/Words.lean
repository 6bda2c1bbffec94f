import LatencySweep.Text.Blank
import Mathlib.Data.List.Basic

/-
  Words of texts that are made of other texts.

  A blank ends a word, so the words of texts that are joined
  with blanks are the words of these texts, one text behind
  the other. A text without a blank is a word.

  Main declarations:
    * `toList_intercalate_cons`
    * `stretch_append`
    * `IsBlankFree`
    * `isBlankFree_of_mem_words`
    * `words_behind_blank`
    * `words_intercalate`
-/

namespace LatencySweep

------------------------------------------------------------
-- Joined Texts
------------------------------------------------------------

/- Behind the first of joined texts stand the others, each
   with the separator in front. -/
theorem toList_intercalate_cons
    (separator front : String)
    (texts : List String) :
    (String.intercalate separator (front :: texts)).toList =
      front.toList ++
        texts.flatMap fun text =>
          separator.toList ++ text.toList := by
  induction texts generalizing front with
  | nil => simp
  | cons text texts ih =>
      rw [String.intercalate_cons_cons, String.toList_append,
        String.toList_append, ih]
      simp

/- A stretch of items that pass a test ends where the next
   item does not pass it. -/
theorem stretch_append
    {α : Type}
    {test : α → Bool}
    {front rest : List α}
    (hFront : ∀ item ∈ front, test item = true)
    (hRest :
      ∀ item, rest.head? = some item → test item = false) :
    (front ++ rest).takeWhile test = front ∧
      (front ++ rest).dropWhile test = rest := by
  rw [List.takeWhile_append_of_pos hFront,
    List.dropWhile_append_of_pos hFront]
  cases rest with
  | nil => exact ⟨List.append_nil front, rfl⟩
  | cons item rest =>
      have hNot : ¬ test item = true :=
        Bool.eq_false_iff.mp (hRest item rfl)
      rw [List.takeWhile_cons_of_neg hNot,
        List.dropWhile_cons_of_neg hNot, List.append_nil]
      exact ⟨rfl, rfl⟩

------------------------------------------------------------
-- Blanks and Words
------------------------------------------------------------

/- A list is cut at every item that the cut is made for. -/
theorem forall_mem_of_mem_splitOnP
    {α : Type}
    {isCut : α → Bool}
    {items piece : List α}
    (hPiece : piece ∈ items.splitOnP isCut) :
    ∀ item ∈ piece, isCut item = false := by
  induction items generalizing piece with
  | nil =>
      rw [List.splitOnP_nil, List.mem_singleton] at hPiece
      rw [hPiece]
      exact nofun
  | cons first items ih =>
      rw [List.splitOnP_cons_eq_if_modifyHead] at hPiece
      split at hPiece
      next =>
        rcases List.mem_cons.mp hPiece with rfl | hRest
        · exact nofun
        · exact ih hRest
      next hKept =>
        cases hPieces : items.splitOnP isCut with
        | nil =>
            exact absurd hPieces (List.splitOnP_ne_nil _ _)
        | cons next others =>
            rw [hPieces] at hPiece ih
            rcases List.mem_cons.mp hPiece with rfl | hOther
            · rw [List.forall_mem_cons]
              exact
                ⟨Bool.eq_false_iff.mpr hKept,
                  ih List.mem_cons_self⟩
            · exact ih (List.mem_cons_of_mem _ hOther)

/- No character of the text is blank. -/
def IsBlankFree (text : List Char) : Prop :=
  ∀ c ∈ text, isBlank c = false

instance (text : List Char) : Decidable (IsBlankFree text) :=
  List.decidableBAll (fun c => isBlank c = false) text

theorem isBlankFree_of_mem_words
    {text word : List Char}
    (hWord : word ∈ words text) :
    IsBlankFree word :=
  forall_mem_of_mem_splitOnP (List.mem_filter.mp hWord).1

/- Words end at a blank. -/
theorem words_behind_blank
    {c : Char}
    (hBlank : isBlank c = true)
    (front back : List Char) :
    words (front ++ c :: back) =
      words front ++ words back := by
  unfold words
  rw [List.splitOnP_append_cons front back hBlank,
    List.filter_append]

/- A text without a blank is one word. -/
theorem words_of_blankFree
    {text : List Char}
    (hSome : text ≠ [])
    (hFree : IsBlankFree text) :
    words text = [text] := by
  unfold words
  rw [List.splitOnP_eq_singleton hFree,
    List.filter_singleton]
  simp [hSome]

/- Texts that are joined with blanks keep their words. -/
theorem words_intercalate (texts : List String) :
    words (String.intercalate " " texts).toList =
      texts.flatMap fun text => words text.toList := by
  induction texts with
  | nil => rfl
  | cons text texts ih =>
      cases texts with
      | nil => simp
      | cons next texts =>
          have hBlank : isBlank ' ' = true := by decide
          rw [String.intercalate_cons_cons,
            String.toList_append, String.toList_append,
            List.append_assoc, List.flatMap_cons, ← ih]
          exact words_behind_blank hBlank text.toList _

end LatencySweep
