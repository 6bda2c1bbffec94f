import LatencySweep.Proofs.Path.Files

/-
  Parents and file names, read off the components.

  The file name of a path is its last component, and its
  parent has all the others. So the directory of a path that
  was joined from a directory and a name is that directory,
  however the text of the directory ends.

  Main declarations:
    * `Path.exists_parent`
    * `Path.fileName?_eq_some_iff`
    * `Path.fileName?_join`
    * `Path.components_parentDir_join`
-/

namespace LatencySweep

namespace Path

variable {p : Path} {name : String}

------------------------------------------------------------
-- Fronts
------------------------------------------------------------

/- A text is its pieces with separators between them. -/
theorem intercalate_piecesOf (text : List Char) :
    [separator].intercalate (piecesOf text) = text :=
  List.intercalate_splitOn separator

/- A text whose first piece is a dot has a front. -/
theorem splitAnchor_of_dot
    {text : List Char}
    {pieces : List (List Char)}
    (hDot : piecesOf text = ['.'] :: pieces) :
    (splitAnchor text).1 = ['.'] := by
  rw [← intercalate_piecesOf text, hDot]
  cases pieces with
  | nil => rfl
  | cons piece pieces => rw [List.intercalate_cons_cons]; rfl

/- The first pieces of a text without a front have none. -/
theorem splitAnchor_intercalate
    {body : List Char}
    {pieces : List (List Char)}
    (hBody : (splitAnchor body).1 = [])
    (hPrefix : pieces <+: piecesOf body)
    (hEnd : pieces = dropIdleEnd pieces) :
    (splitAnchor ([separator].intercalate pieces)).1 = [] := by
  rcases hSplit :
      splitAnchor ([separator].intercalate pieces) with
    ⟨anchor, rest⟩
  have hText :=
    append_splitAnchor ([separator].intercalate pieces)
  rw [hSplit] at hText
  have hDot
      {more : List (List Char)}
      (hMore : piecesOf body = ['.'] :: more) :
      False := by
    rw [splitAnchor_of_dot hMore] at hBody
    cases hBody
  rcases splitAnchor_cases hSplit with
    ⟨_, hRoot⟩ | ⟨rfl, _, hRest⟩ | ⟨hNone, _⟩
  · rcases List.head?_eq_some_iff.mp hRoot with
      ⟨text, hSlash⟩
    have hFirst := head?_of_intercalate hPrefix hSlash
    rcases List.head?_eq_some_iff.mp hFirst with
      ⟨text', hSlash'⟩
    rw [hSlash'] at hBody
    cases hBody
  · have hSome : pieces ≠ [] := by
      rintro rfl
      cases hText
    have hPieces := piecesOf_intercalate hPrefix hSome
    rw [← hText] at hPieces
    rcases hRest with rfl | ⟨rest', rfl⟩
    · -- a single dot is idle, and no piece at the end is
      change [['.']] = pieces at hPieces
      rw [← hPieces] at hEnd
      cases hEnd
    · have hMore :
          piecesOf ('.' :: '/' :: rest') =
            ['.'] :: piecesOf rest' :=
        List.splitOn_append_cons_self ['.'] rest'
      change piecesOf ('.' :: '/' :: rest') = pieces
        at hPieces
      rw [← hPieces, hMore] at hPrefix
      rcases hPrefix with ⟨others, hOthers⟩
      exact (hDot hOthers.symm).elim
  · exact hNone

/- Only the empty text has no components. -/
theorem components_eq_nil_iff (p : Path) :
    p.components = [] ↔ p.text = "" := by
  constructor
  · intro hNone
    rw [components_eq, List.append_eq_nil_iff,
      List.map_eq_nil_iff] at hNone
    rw [← String.toList_eq_nil_iff]
    cases hText : p.text.toList with
    | nil => rfl
    | cons c text =>
        rw [steps, hText] at hNone
        by_cases hRoot : c = '/'
        · rw [hRoot] at hNone
          cases hNone.1
        · rcases exists_piecesOf_cons text hRoot with
            ⟨piece, pieces, _, hPieces⟩
          have hIdle : isIdle (c :: piece) = true := by
            by_contra hNot
            have hSteps := hNone.2
            rw [stepsOf, hPieces,
              List.filter_cons_of_pos (by simpa using hNot)]
              at hSteps
            cases hSteps
          have hDot : c :: piece = ['.'] := by
            simpa [isIdle] using hIdle
          rw [hDot] at hPieces
          rw [splitAnchor_of_dot hPieces] at hNone
          cases hNone.1
  · intro hText
    unfold components
    rw [hText]
    rfl

------------------------------------------------------------
-- Parents
------------------------------------------------------------

/- A path with pieces has steps, the last of which is its
   last piece. -/
theorem getLast?_steps (p : Path) :
    p.steps.getLast? = p.bodyPieces.getLast? := by
  rw [steps_eq_filter]
  by_cases hNone : p.bodyPieces = []
  · rw [hNone]
    rfl
  · have hSplit := List.dropLast_append_getLast hNone
    have hStep : isIdle (p.bodyPieces.getLast hNone) = false :=
      Bool.eq_false_iff.mpr
        (List.rdropWhile_last_not isIdle _ hNone)
    rw [← hSplit, List.filter_append,
      List.filter_cons_of_pos (by simp [hStep]),
      List.filter_nil, List.getLast?_concat,
      List.getLast?_concat]

/- The parent has all steps but the last. -/
theorem steps_of_parent
    {parent : Path}
    (hSome : p.bodyPieces ≠ [])
    (hParent : p.parent? = some parent) :
    parent.steps = p.steps.dropLast := by
  by_cases hEmpty : parent.text = ""
  · have hNone : parent = ⟨""⟩ := by
      rw [← hEmpty]
    rw [hNone] at hParent
    rw [hNone, (steps_of_empty_parent hSome hParent).1]
    rfl
  · exact steps_parent hParent hEmpty

/- The first pieces of a text, put behind its front, have
   that front. -/
theorem splitAnchor_front
    {text anchor body : List Char}
    {pieces : List (List Char)}
    (hSplit : splitAnchor text = (anchor, body))
    (hPrefix : pieces <+: piecesOf body)
    (hEnd : pieces = dropIdleEnd pieces) :
    (splitAnchor (anchor ++ [separator].intercalate pieces)).1 =
      anchor := by
  rcases splitAnchor_cases hSplit with
    ⟨rfl, _⟩ | ⟨rfl, _, hDot⟩ | ⟨rfl, hSame, _⟩
  · rfl
  · rcases intercalate_behind_dot hDot hPrefix hEnd with
      hNone | ⟨rest, hRest⟩
    · rw [hNone]
      rfl
    · rw [hRest]
      rfl
  · rw [hSame] at hSplit
    exact
      splitAnchor_intercalate (by rw [hSplit]) hPrefix hEnd

/- The parent has all components but the last. -/
theorem exists_parent
    (hSome : p.bodyPieces ≠ []) :
    ∃ parent,
      p.parent? = some parent ∧
        parent.components = p.components.dropLast := by
  rcases hSplit : splitAnchor p.text.toList with
    ⟨anchor, body⟩
  obtain ⟨pieces, hPieces⟩ :
      ∃ pieces, pieces = dropIdleEnd p.bodyPieces.dropLast :=
    ⟨_, rfl⟩
  have hParent :
      p.parent? =
        some
          ⟨String.ofList
            (anchor ++ [separator].intercalate pieces)⟩ := by
    unfold parent?
    dsimp only
    rw [if_neg hSome, hSplit, hPieces]
  refine ⟨_, hParent, ?_⟩
  have hBody : p.bodyPieces = dropIdleEnd (piecesOf body) := by
    rw [bodyPieces, hSplit]
  have hPrefix : pieces <+: piecesOf body := by
    have hFront := List.dropLast_prefix p.bodyPieces
    have hAll := dropIdleEnd_isPrefix (piecesOf body)
    rw [← hBody] at hAll
    rw [hPieces]
    exact ((dropIdleEnd_isPrefix _).trans hFront).trans hAll
  have hEnd : pieces = dropIdleEnd pieces := by
    rw [hPieces, dropIdleEnd_eq, dropIdleEnd_eq,
      List.rdropWhile_idempotent]
  have hLast : p.steps ≠ [] := by
    intro hNone
    have hPiece := getLast?_steps p
    rw [hNone] at hPiece
    exact hSome (List.getLast?_eq_none_iff.mp hPiece.symm)
  rw [components_eq, components_eq,
    steps_of_parent hSome hParent, String.toList_ofList,
    splitAnchor_front hSplit hPrefix hEnd, hSplit,
    List.dropLast_append_of_ne_nil
      (List.map_eq_nil_iff.not.mpr hLast),
    List.map_dropLast]

------------------------------------------------------------
-- File Names
------------------------------------------------------------

/- The file name is the last component, if that is a name. -/
theorem fileName?_eq_some_iff :
    p.fileName? = some name ↔
      p.components.getLast? = some (.name name) := by
  have hPieces :
      p.fileName? =
        p.steps.getLast?.bind fun piece =>
          if piece = ['.', '.'] then none
          else some (String.ofList piece) := by
    rw [getLast?_steps]
    unfold fileName?
    cases p.bodyPieces.getLast? <;> rfl
  rw [hPieces, components_eq]
  by_cases hNone : p.steps = []
  · rw [hNone, List.map_nil, List.append_nil]
    refine iff_of_false nofun ?_
    unfold anchorComponents
    split <;> exact nofun
  · rcases List.eq_nil_or_concat p.steps with
      hNil | ⟨front, piece, hSteps⟩
    · exact absurd hNil hNone
    · rw [hSteps, List.concat_eq_append, List.map_append,
        List.map_singleton, ← List.append_assoc,
        List.getLast?_concat, List.getLast?_concat,
        Option.bind_some, componentOf]
      by_cases hUp : piece = ['.', '.']
      · simp [hUp]
      · simp [hUp]

/- A name that is joined to a path is its file name. -/
theorem fileName?_join
    (p : Path)
    (hSeparator : separator ∉ name.toList)
    (hNamed : FileTree.isNameless name = false) :
    (p / name).fileName? = some name := by
  rw [fileName?_eq_some_iff,
    components_join_name p hSeparator hNamed,
    List.getLast?_concat]

/- The directory of what was joined to a path is the path. -/
theorem components_parentDir_join
    (hText : p.text ≠ "")
    (hSeparator : separator ∉ name.toList)
    (hNamed : FileTree.isNameless name = false) :
    (p / name).parentDir.components = p.components := by
  have hName := fileName?_join p hSeparator hNamed
  rcases exists_parent (bodyPieces_of_fileName hName) with
    ⟨parent, hParent, hComponents⟩
  rw [components_join_name p hSeparator hNamed,
    List.dropLast_concat] at hComponents
  have hSome : parent.text ≠ "" := by
    intro hEmpty
    rw [← components_eq_nil_iff, hComponents,
      components_eq_nil_iff] at hEmpty
    exact hText hEmpty
  unfold parentDir
  rw [hParent]
  dsimp only
  rw [if_neg hSome, hComponents]

end Path

end LatencySweep
