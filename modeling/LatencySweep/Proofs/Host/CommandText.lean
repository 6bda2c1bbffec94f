import LatencySweep.Host.Invocation
import LatencySweep.Proofs.Path.Join

/-
  A shown command is read back.

  Words that are empty or hold a blank are shown in quotes,
  so every space outside quotes stands between two words.
  What goes to the log is told by the end of the text. So
  whoever knows the log file can read the program and its
  arguments, unless they have quotes of their own.

  Main declarations:
    * `CommandText.pieces`
    * `CommandText.words?`
    * `CommandText.IsClosed`
    * `CommandText.pieces_intercalate`
    * `Path.count_flatten_steps`
    * `Invocation.IsReadable`
    * `Invocation.isReadable_of_quoteFree`
-/

namespace LatencySweep

------------------------------------------------------------
-- Reading a Command
------------------------------------------------------------

namespace CommandText

/- The mark around words that need quotes. -/
def quoteMark : Char := '"'

/- The text between single spaces outside quotes, piece by
   piece. The quotes stay where they are. -/
def pieces (quoted : Bool) : List Char → List (List Char)
  | [] => [[]]
  | c :: rest =>
      if c = ' ' ∧ quoted = false then [] :: pieces false rest
      else
        (pieces (quoted != (c = quoteMark)) rest).modifyHead
          (c :: ·)

/- A piece without its quotes. -/
def unquoted (piece : List Char) : String :=
  String.ofList (piece.filter (· ≠ quoteMark))

/- The end of a command whose output goes to a log file. -/
def ending (log : Path) : List Char :=
  " > ".toList ++ log.text.toList ++ " 2>&1".toList

/- The words of a command whose output goes to a log file,
   if the text has the end of such a command. -/
def words? (log : Path) (text : String) :
    Option (List String) :=
  ((ending log).isSuffixOf? text.toList).map fun shown =>
    (pieces false shown).map unquoted

------------------------------------------------------------
-- Closed Pieces
------------------------------------------------------------

/- The text is passed over without being cut, and outside
   quotes again. -/
def IsClosed (piece : List Char) : Prop :=
  ∀ rest,
    pieces false (piece ++ rest) =
      (pieces false rest).modifyHead (piece ++ ·)

/- A text without spaces and quotes is closed. -/
theorem isClosed_bare
    {word : List Char}
    (hSpace : ' ' ∉ word)
    (hQuote : quoteMark ∉ word) :
    IsClosed word := by
  intro rest
  induction word with
  | nil => exact (congrFun List.modifyHead_id _).symm
  | cons c word ih =>
      rw [List.mem_cons, not_or] at hSpace hQuote
      have hCut : ¬ (c = ' ' ∧ false = false) := fun hBoth =>
        hSpace.1 hBoth.1.symm
      have hOutside : (false != decide (c = quoteMark)) = false := by
        simp [Ne.symm hQuote.1]
      rw [List.cons_append, pieces, if_neg hCut, hOutside,
        ih hSpace.2 hQuote.2, List.modifyHead_modifyHead]
      rfl

/- Within quotes nothing is cut up to the closing one. -/
theorem pieces_behind_quote
    {word : List Char}
    (hQuote : quoteMark ∉ word)
    (rest : List Char) :
    pieces true (word ++ quoteMark :: rest) =
      (pieces false rest).modifyHead
        (word ++ quoteMark :: ·) := by
  induction word with
  | nil => simp [pieces]
  | cons c word ih =>
      rw [List.mem_cons, not_or] at hQuote
      have hInside : (true != decide (c = quoteMark)) = true := by
        simp [Ne.symm hQuote.1]
      rw [List.cons_append, pieces, if_neg (by simp), hInside,
        ih hQuote.2, List.modifyHead_modifyHead]
      rfl

/- A text in quotes is closed. -/
theorem isClosed_quoted
    {word : List Char}
    (hQuote : quoteMark ∉ word) :
    IsClosed (quoteMark :: (word ++ [quoteMark])) := by
  intro rest
  have hInside : (false != decide (quoteMark = quoteMark)) = true := by
    decide
  rw [List.cons_append, List.append_assoc, pieces,
    if_neg (by decide), hInside, List.singleton_append,
    pieces_behind_quote hQuote, List.modifyHead_modifyHead]
  congr 1
  funext first
  simp

/- Closed texts that are joined with spaces are cut where
   they were joined. -/
theorem pieces_intercalate
    {words : List (List Char)}
    (hSome : words ≠ [])
    (hClosed : ∀ word ∈ words, IsClosed word) :
    pieces false ([' '].intercalate words) = words := by
  induction words with
  | nil => exact absurd rfl hSome
  | cons word words ih =>
      have hWord := hClosed word List.mem_cons_self
      cases words with
      | nil =>
          have hAlone := hWord []
          rw [List.append_nil] at hAlone
          rw [List.intercalate_singleton, hAlone, pieces,
            List.modifyHead_cons, List.append_nil]
      | cons next words =>
          have hRest :=
            ih (List.cons_ne_nil _ _) fun other hMem =>
              hClosed other (List.mem_cons_of_mem _ hMem)
          rw [List.intercalate_cons_cons, List.append_assoc,
            hWord, List.singleton_append, pieces,
            if_pos (by decide), hRest]
          simp

end CommandText

------------------------------------------------------------
-- Shown Words
------------------------------------------------------------

namespace Invocation

open CommandText (quoteMark)

variable {word : String}

/- A bare word has no space, and any other is in quotes. -/
theorem shownWord_cases (word : String) :
    (' ' ∉ word.toList ∧ shownWord word = word) ∨
      (shownWord word).toList =
        quoteMark :: (word.toList ++ [quoteMark]) := by
  unfold shownWord
  split
  next =>
    right
    rw [String.toList_append, String.toList_append]
    rfl
  next hBare =>
    left
    refine ⟨fun hSpace => hBare ?_, rfl⟩
    have hBlank : word.toList.any isBlank = true :=
      List.any_eq_true.mpr ⟨' ', hSpace, by decide⟩
    rw [needsQuotes, hBlank, Bool.or_true]

theorem isClosed_shownWord
    (hQuote : quoteMark ∉ word.toList) :
    CommandText.IsClosed (shownWord word).toList := by
  rcases shownWord_cases word with ⟨hSpace, hShown⟩ | hShown
  · rw [hShown]
    exact CommandText.isClosed_bare hSpace hQuote
  · rw [hShown]
    exact CommandText.isClosed_quoted hQuote

/- Without the quotes, the word is left. -/
theorem unquoted_shownWord
    (hQuote : quoteMark ∉ word.toList) :
    CommandText.unquoted (shownWord word).toList = word := by
  have hKept :
      word.toList.filter (· ≠ quoteMark) = word.toList := by
    rw [List.filter_eq_self]
    intro c hMem
    apply decide_eq_true
    rintro rfl
    exact hQuote hMem
  unfold CommandText.unquoted
  rcases shownWord_cases word with ⟨-, hShown⟩ | hShown
  · rw [hShown, hKept, String.ofList_toList]
  · rw [hShown, List.filter_cons_of_neg (by simp),
      List.filter_append, hKept,
      List.filter_cons_of_neg (by simp), List.filter_nil,
      List.append_nil, String.ofList_toList]

/- The text is the shown words and the end of the command. -/
theorem toList_toText (call : Invocation) :
    call.toText.toList =
      [' '].intercalate
          (call.words.map fun word =>
            (shownWord word).toList) ++
        CommandText.ending call.logPath := by
  unfold toText CommandText.ending
  simp only [String.toList_append, String.toList_intercalate,
    List.map_map, List.append_assoc]
  rfl

/- No word has a quote. -/
def IsQuoteFree (call : Invocation) : Prop :=
  ∀ word ∈ call.words, quoteMark ∉ word.toList

instance (call : Invocation) : Decidable call.IsQuoteFree := by
  unfold IsQuoteFree
  infer_instance

/- The words are read back from the text. -/
theorem words?_toText
    {call : Invocation}
    (hFree : call.IsQuoteFree) :
    CommandText.words? call.logPath call.toText =
      some call.words := by
  let shown :=
    call.words.map fun word => (shownWord word).toList
  have hEnd :
      (CommandText.ending call.logPath).isSuffixOf?
          call.toText.toList =
        some ([' '].intercalate shown) :=
    List.isSuffixOf?_eq_some_iff_append_eq.mpr
      call.toList_toText.symm
  have hPieces :
      CommandText.pieces false ([' '].intercalate shown) =
        shown := by
    apply CommandText.pieces_intercalate
    · exact List.cons_ne_nil _ _
    · intro piece hPiece
      rcases List.mem_map.mp hPiece with ⟨word, hWord, rfl⟩
      exact isClosed_shownWord (hFree word hWord)
  have hWords : shown.map CommandText.unquoted = call.words := by
    rw [List.map_map]
    conv_rhs => rw [← List.map_id call.words]
    apply List.map_congr_left
    intro word hWord
    exact unquoted_shownWord (hFree word hWord)
  rw [CommandText.words?, hEnd, Option.map_some, hPieces,
    hWords]

end Invocation

------------------------------------------------------------
-- Characters of Paths
------------------------------------------------------------

namespace Path

variable {c : Char}

/- What is no separator stands in the pieces of a text. -/
theorem count_flatten_piecesOf
    (hSeparator : c ≠ separator)
    (text : List Char) :
    (piecesOf text).flatten.count c = text.count c := by
  have hNone : [separator].count c = 0 :=
    List.count_eq_zero.mpr (by simpa using hSeparator)
  have hJoined (pieces : List (List Char)) :
      ([separator].intercalate pieces).count c =
        pieces.flatten.count c := by
    induction pieces with
    | nil => rfl
    | cons piece pieces ih =>
        cases pieces with
        | nil => simp
        | cons next pieces =>
            rw [List.intercalate_cons_cons, List.count_append,
              List.count_append, hNone, Nat.add_zero, ih]
            exact List.count_append.symm
  rw [← hJoined, piecesOf, List.intercalate_splitOn]

/- What is no dot either stands in the steps of a path. -/
theorem count_flatten_steps
    (hSeparator : c ≠ separator)
    (hDot : c ≠ '.')
    (p : Path) :
    p.steps.flatten.count c = p.text.toList.count c := by
  have hIdle
      {piece : List Char}
      (hPiece : isIdle piece = true) :
      piece.count c = 0 := by
    have hCases : piece = [] ∨ piece = ['.'] := by
      simpa [isIdle] using hPiece
    rcases hCases with rfl | rfl
    · rfl
    · exact List.count_eq_zero.mpr (by simpa using hDot)
  have hKept (pieces : List (List Char)) :
      (pieces.filter (!isIdle ·)).flatten.count c =
        pieces.flatten.count c := by
    induction pieces with
    | nil => rfl
    | cons piece pieces ih =>
        rw [List.flatten_cons, List.count_append, ← ih]
        by_cases hPiece : isIdle piece = true
        · rw [hIdle hPiece, Nat.zero_add,
            List.filter_cons_of_neg (by simp [hPiece])]
        · rw [List.filter_cons_of_pos (by simpa using hPiece),
            List.flatten_cons, List.count_append]
  rw [steps, stepsOf, hKept, count_flatten_piecesOf hSeparator]

end Path

------------------------------------------------------------
-- Commands with the Same Text
------------------------------------------------------------

namespace CommandText

/- What stands between two places behind a space is empty if
   it has no space. -/
theorem eq_nil_of_behind_space
    {front other extra : List Char}
    (hNone : extra.count ' ' = 0)
    (hText : other ++ [' '] = front ++ [' '] ++ extra) :
    extra = [] := by
  rcases List.eq_nil_or_concat extra with
    hNil | ⟨text, last, rfl⟩
  · exact hNil
  · rw [List.concat_eq_append, ← List.append_assoc] at hText
    have hLast := (List.append_inj' hText rfl).2
    rw [List.concat_eq_append, ← hLast] at hNone
    rw [List.count_eq_zero] at hNone
    exact
      absurd (List.mem_append_right text List.mem_cons_self)
        hNone

/- Texts with as many spaces end a text behind the same
   space. -/
theorem eq_of_behind_space
    {front other back rest : List Char}
    (hSpaces : back.count ' ' = rest.count ' ')
    (hText :
      front ++ [' '] ++ back = other ++ [' '] ++ rest) :
    front = other ∧ back = rest := by
  rcases List.append_eq_append_iff.mp hText with
    ⟨extra, hOther, rfl⟩ | ⟨extra, hFront, rfl⟩
  · rw [List.count_append] at hSpaces
    have hNil := eq_nil_of_behind_space (by omega) hOther
    rw [hNil, List.append_nil] at hOther
    rw [hNil]
    exact ⟨(List.append_inj' hOther rfl).1.symm, rfl⟩
  · rw [List.count_append] at hSpaces
    have hNil := eq_nil_of_behind_space (by omega) hFront
    rw [hNil, List.append_nil] at hFront
    rw [hNil]
    exact ⟨(List.append_inj' hFront rfl).1, rfl⟩

/- Log files that are the same have as many spaces, also
   where they are written differently. So the text tells
   where they start. -/
theorem eq_of_append_ending_eq
    {front other : List Char}
    {log file : Path}
    (hFiles : log.components = file.components)
    (hText : front ++ ending log = other ++ ending file) :
    front = other ∧ log = file := by
  have hSpaces :
      log.text.toList.count ' ' = file.text.toList.count ' ' := by
    rw [← Path.count_flatten_steps (by decide) (by decide),
      ← Path.count_flatten_steps (by decide) (by decide),
      Path.steps_eq_of_components_eq hFiles]
  have hEnding (text : List Char) (p : Path) :
      text ++ ending p =
        text ++ [' ', '>'] ++ [' '] ++ p.text.toList ++
          " 2>&1".toList := by
    simp [ending]
  rw [hEnding, hEnding, List.append_cancel_right_eq] at hText
  rcases eq_of_behind_space hSpaces hText with
    ⟨hFront, hFile⟩
  refine ⟨(List.append_inj' hFront rfl).1, ?_⟩
  cases log
  cases file
  exact congrArg Path.mk (String.toList_inj.mp hFile)

end CommandText

namespace Invocation

/-
  The command is read back from its text by whoever knows
  the log file. No other one with that log file, however it
  is written, has the same text.
-/
structure IsReadable (call : Invocation) : Prop where
  words :
    CommandText.words? call.logPath call.toText =
      some (call.program :: call.args)
  distinct :
    ∀ other : Invocation,
      other.IsQuoteFree →
        other.logPath.components = call.logPath.components →
          other.toText = call.toText → other = call

/- A command whose words have no quotes is read back. -/
theorem isReadable_of_quoteFree
    {call : Invocation}
    (hFree : call.IsQuoteFree) :
    call.IsReadable where
  words := words?_toText hFree
  distinct := by
    intro other hOther hFiles hText
    have hEnds := congrArg String.toList hText
    rw [toList_toText, toList_toText] at hEnds
    have hLog :=
      (CommandText.eq_of_append_ending_eq hFiles hEnds).2
    have hWords := words?_toText hOther
    rw [hLog, hText, words?_toText hFree, Option.some.injEq]
      at hWords
    rcases call with ⟨program, args, logPath⟩
    rcases other with ⟨program', args', logPath'⟩
    cases hLog
    cases hWords
    rfl

/- A program without a name, and arguments that look like
   other parts of a command. -/
def deceptive : Invocation where
  program := ""
  args :=
    [ ">", "out.txt", "2>&1", "", " ", "a  b", "tab\there",
      " > out.txt 2>&1", "--cwd=a b", "\u3000" ]
  logPath := ⟨"a > b//out.txt"⟩

theorem isReadable_deceptive :
    deceptive.IsQuoteFree ∧ deceptive.IsReadable := by
  have hFree : deceptive.IsQuoteFree := by decide
  exact ⟨hFree, isReadable_of_quoteFree hFree⟩

end Invocation

end LatencySweep
