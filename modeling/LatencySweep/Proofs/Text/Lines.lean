import LatencySweep.Text.Lines

/-
  The lines of a file, whatever ends them.

  Each line of a file ends at a line feed, with or without
  one carriage return in front of it, and the last one may
  also just end. All files that spell the same lines in such
  ways have these lines.

  Main declarations:
    * `Bytes.Spells`
    * `Bytes.lines_of_spells`
    * `Bytes.spells_lines`
    * `Bytes.lines_append`
-/

namespace LatencySweep

namespace Bytes

------------------------------------------------------------
-- Spellings
------------------------------------------------------------

/-
  The content spells the lines, each with an ending of its
  own. A line that ends with a carriage return cannot do
  without a second one, unless it is the last.
-/
inductive Spells : List Bytes → Bytes → Prop where
  | none : Spells [] []
  | last {line : Bytes} :
      line ≠ [] →
        lineFeed ∉ line →
          Spells [line] line
  | feed {line content : Bytes} {rest : List Bytes} :
      lineFeed ∉ line →
        line.getLast? ≠ some carriageReturn →
          Spells rest content →
            Spells (line :: rest)
              (line ++ lineFeed :: content)
  | returnFeed {line content : Bytes} {rest : List Bytes} :
      lineFeed ∉ line →
        Spells rest content →
          Spells (line :: rest)
            (line ++ carriageReturn :: lineFeed :: content)

/- The first piece up to a line feed is a line. -/
theorem lines_feed
    {piece : Bytes}
    (hPiece : lineFeed ∉ piece)
    (content : Bytes) :
    lines (piece ++ lineFeed :: content) =
      dropReturn piece :: lines content := by
  have hPieces :
      (piece ++ lineFeed :: content).splitOn lineFeed =
        piece :: content.splitOn lineFeed := by
    rw [List.splitOn_append_cons_self,
      List.splitOn_eq_singleton hPiece]
    rfl
  have hSome : content.splitOn lineFeed ≠ [] :=
    List.splitOn_ne_nil _ _
  unfold lines
  rw [hPieces]
  cases hRest : content.splitOn lineFeed with
  | nil => exact absurd hRest hSome
  | cons next rest => rfl

theorem dropReturn_concat (line : Bytes) :
    dropReturn (line ++ [carriageReturn]) = line := by
  unfold dropReturn
  rw [List.getLast?_concat, if_pos rfl, List.dropLast_concat]

/- A file without a line feed is one line, or none. -/
theorem lines_of_notMem
    {content : Bytes}
    (hFeed : lineFeed ∉ content) :
    lines content = if content = [] then [] else [content] := by
  unfold lines
  rw [List.splitOn_eq_singleton hFeed]
  rfl

/- A file has the lines that it spells. -/
theorem lines_of_spells
    {rows : List Bytes}
    {content : Bytes}
    (hSpells : Spells rows content) :
    lines content = rows := by
  induction hSpells with
  | none => rfl
  | @last line hSome hFeed =>
      rw [lines_of_notMem hFeed, if_neg hSome]
  | @feed line content rest hFeed hReturn _ ih =>
      rw [lines_feed hFeed, ih, dropReturn, if_neg hReturn]
  | @returnFeed line content rest hFeed _ ih =>
      have hEnd : lineFeed ∉ line ++ [carriageReturn] := by
        rw [List.mem_append, not_or]
        exact ⟨hFeed, by decide⟩
      have hLines := lines_feed hEnd content
      rw [dropReturn_concat, ih, List.append_assoc] at hLines
      exact hLines

/- Every file spells its lines. -/
theorem spells_lines (content : Bytes) :
    Spells (lines content) content := by
  -- by the number of bytes behind the first line feed
  induction hSize : content.length using Nat.strongRecOn
    generalizing content with
  | ind size ih =>
      by_cases hFeed : lineFeed ∈ content
      · rcases List.eq_append_cons_of_mem hFeed with
          ⟨piece, rest, rfl, hPiece⟩
        have hShorter : rest.length < size := by
          rw [← hSize, List.length_append, List.length_cons]
          omega
        have hRest := ih rest.length hShorter rest rfl
        rw [lines_feed hPiece]
        by_cases hReturn :
            piece.getLast? = some carriageReturn
        · rcases List.getLast?_eq_some_iff.mp hReturn with
            ⟨line, rfl⟩
          rw [List.mem_append, not_or] at hPiece
          rw [dropReturn_concat, List.append_assoc]
          exact Spells.returnFeed hPiece.1 hRest
        · rw [dropReturn, if_neg hReturn]
          exact Spells.feed hPiece hReturn hRest
      · rw [lines_of_notMem hFeed]
        by_cases hNone : content = []
        · rw [if_pos hNone, hNone]
          exact Spells.none
        · rw [if_neg hNone]
          exact Spells.last hNone hFeed

------------------------------------------------------------
-- Files behind Each Other
------------------------------------------------------------

/- The last line of the content has an ending. -/
def IsEnded (content : Bytes) : Prop :=
  content = [] ∨ content.getLast? = some lineFeed

/- What stands behind a line has an ending if the whole
   has. -/
theorem isEnded_behind
    {front content : Bytes}
    (hEnded : IsEnded (front ++ lineFeed :: content)) :
    IsEnded content := by
  rcases hEnded with hNone | hFeed
  · simp at hNone
  · cases hLast : content.getLast? with
    | none => exact Or.inl (List.getLast?_eq_none_iff.mp hLast)
    | some last =>
        right
        rw [List.getLast?_append, List.getLast?_cons, hLast]
          at hFeed
        rw [hLast, ← hFeed]
        rfl

/- More lines may follow the last ending. -/
theorem Spells.append
    {rows others : List Bytes}
    {content more : Bytes}
    (hSpells : Spells rows content)
    (hEnded : IsEnded content)
    (hMore : Spells others more) :
    Spells (rows ++ others) (content ++ more) := by
  induction hSpells with
  | none => exact hMore
  | last hSome hFeed =>
      rcases hEnded with hNone | hLast
      · exact absurd hNone hSome
      · exact absurd (List.mem_of_getLast? hLast) hFeed
  | @feed line content rest hFeed hReturn _ ih =>
      rw [List.append_assoc, List.cons_append]
      exact
        Spells.feed hFeed hReturn (ih (isEnded_behind hEnded))
  | @returnFeed line content rest hFeed _ ih =>
      have hBehind : IsEnded content := by
        rw [List.append_cons] at hEnded
        exact isEnded_behind hEnded
      rw [List.append_assoc, List.cons_append,
        List.cons_append]
      exact Spells.returnFeed hFeed (ih hBehind)

/- Behind an ending, the lines start anew. -/
theorem lines_append
    {content : Bytes}
    (hEnded : IsEnded content)
    (more : Bytes) :
    lines (content ++ more) = lines content ++ lines more :=
  lines_of_spells
    ((spells_lines content).append hEnded (spells_lines more))

end Bytes

end LatencySweep
