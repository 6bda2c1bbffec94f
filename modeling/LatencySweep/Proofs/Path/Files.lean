import LatencySweep.Proofs.FileTree.Children
import LatencySweep.Proofs.Path.Join
import LatencySweep.Proofs.Path.Parent

/-
  Files next to each other.

  A path with a file name leads to that name in the place of
  its directory, and a path that is joined from a directory
  and a name leads to the name there.

  Main declarations:
    * `Path.exists_steps_of_fileName`
    * `Path.place_of_fileName`
    * `Path.length_place_le`
    * `Path.place_join`
    * `Path.components_join_name`
    * `Path.stemOf_append`
    * `Path.ne_stemOf_append`
-/

namespace LatencySweep

namespace Path

variable {p : Path} {name : String}

------------------------------------------------------------
-- File Names
------------------------------------------------------------

/- The steps are the pieces that are not idle. -/
theorem steps_eq_filter (p : Path) :
    p.steps = p.bodyPieces.filter (!isIdle ·) := by
  rw [steps, ← stepsOf_splitAnchor, stepsOf,
    ← filter_dropIdleEnd]
  rfl

/- The file name is the last step. -/
theorem exists_steps_of_fileName
    (hName : p.fileName? = some name) :
    ∃ front,
      p.steps = front ++ [name.toList] ∧
        separator ∉ name.toList ∧
        FileTree.isNameless name = false := by
  unfold fileName? at hName
  split at hName
  next => cases hName
  next piece hPiece =>
    split at hName
    next => cases hName
    next hUp =>
      cases hName
      let body := (splitAnchor p.text.toList).2
      rcases List.getLast?_eq_some_iff.mp hPiece with
        ⟨front, hPieces⟩
      have hSome : p.bodyPieces ≠ [] := by
        rw [hPieces]
        exact List.append_ne_nil_of_right_ne_nil _
          (List.cons_ne_nil _ _)
      have hStep : isIdle piece = false := by
        have hLast :=
          List.rdropWhile_last_not isIdle (piecesOf body) hSome
        have hSame : p.bodyPieces.getLast hSome = piece := by
          rw [List.getLast?_eq_some_getLast hSome] at hPiece
          exact Option.some.inj hPiece
        change ¬ isIdle (p.bodyPieces.getLast hSome) = true
          at hLast
        rw [hSame] at hLast
        exact Bool.eq_false_iff.mpr hLast
      have hMem : piece ∈ piecesOf body := by
        apply (dropIdleEnd_isPrefix (piecesOf body)).subset
        change piece ∈ p.bodyPieces
        rw [hPieces]
        exact List.mem_append_right _ List.mem_cons_self
      refine ⟨front.filter (!isIdle ·), ?_, ?_, ?_⟩
      · rw [steps_eq_filter, hPieces, List.filter_append,
          String.toList_ofList]
        simp [hStep]
      · rw [String.toList_ofList]
        exact notMem_of_mem_piecesOf hMem
      · simp only [isIdle, Bool.or_eq_false_iff,
          decide_eq_false_iff_not] at hStep
        have hNot (text : String)
            (hOther : piece ≠ text.toList) :
            String.ofList piece ≠ text := by
          rintro rfl
          exact hOther String.toList_ofList.symm
        simp only [FileTree.isNameless, Bool.or_eq_false_iff,
          decide_eq_false_iff_not]
        exact
          ⟨⟨hNot "" hStep.1, hNot "." hStep.2⟩,
            hNot ".." hUp⟩

/- A path with a file name has pieces. -/
theorem bodyPieces_of_fileName
    (hName : p.fileName? = some name) :
    p.bodyPieces ≠ [] := by
  intro hNone
  rw [fileName?, hNone] at hName
  cases hName

/- A parent without a text is that of a relative path with
   a single step at most. -/
theorem steps_of_empty_parent
    (hSome : p.bodyPieces ≠ [])
    (hParent : p.parent? = some ⟨""⟩) :
    p.steps.dropLast = [] ∧ p.isAbsolute = false := by
  rcases hSplit : splitAnchor p.text.toList with
    ⟨anchor, body⟩
  have hPieces : p.bodyPieces = dropIdleEnd (piecesOf body) := by
    rw [bodyPieces, hSplit]
  have hBody : stepsOf body = p.steps := by
    have hSteps := stepsOf_splitAnchor p.text.toList
    rwa [hSplit] at hSteps
  let kept := dropIdleEnd p.bodyPieces.dropLast
  unfold parent? at hParent
  rw [hSplit] at hParent
  dsimp only at hParent
  rw [if_neg hSome, Option.some.injEq, Path.mk.injEq]
    at hParent
  have hText := congrArg String.toList hParent
  rw [String.toList_ofList] at hText
  rcases List.append_eq_nil_iff.mp hText with
    ⟨rfl, hJoined⟩
  constructor
  · have hPrefix : kept <+: piecesOf body := by
      have hFront := List.dropLast_prefix p.bodyPieces
      rw [hPieces] at hFront
      apply (dropIdleEnd_isPrefix _).trans
      rw [hPieces]
      exact hFront.trans (dropIdleEnd_isPrefix _)
    have hKept := stepsOf_intercalate hPrefix
    change [separator].intercalate kept = [] at hJoined
    rw [hJoined] at hKept
    rw [← hBody, stepsOf, ← filter_dropLast_dropIdleEnd,
      ← hPieces, ← filter_dropIdleEnd]
    exact hKept.symm
  · rcases splitAnchor_cases hSplit with
      ⟨hAnchor, -⟩ | ⟨hAnchor, -⟩ | ⟨-, hSame, hHead⟩
    · cases hAnchor
    · cases hAnchor
    · unfold isAbsolute
      rw [hSame]
      exact decide_eq_false hHead

/- The directory of a path has all steps but the last, and
   starts where the path starts. -/
theorem parentDir_of_bodyPieces
    (hSome : p.bodyPieces ≠ []) :
    p.parentDir.steps = p.steps.dropLast ∧
      p.parentDir.isAbsolute = p.isAbsolute := by
  unfold parentDir
  cases hParent : p.parent? with
  | none =>
      unfold parent? at hParent
      dsimp only at hParent
      split at hParent
      next hNone => exact absurd hNone hSome
      next => cases hParent
  | some parent =>
      dsimp only
      by_cases hText : parent.text = ""
      · rcases parent with ⟨text⟩
        cases hText
        rcases steps_of_empty_parent hSome hParent with
          ⟨hSteps, hRelative⟩
        rw [if_pos rfl, hSteps, hRelative]
        exact ⟨rfl, rfl⟩
      · rw [if_neg hText]
        exact
          ⟨steps_parent hParent hText,
            isAbsolute_parent hParent hText⟩

/- A file stands in the place of its directory. -/
theorem place_of_fileName
    (hName : p.fileName? = some name)
    (workDir : Location) :
    p.place workDir = p.parentDir.place workDir ++ [name] := by
  rcases exists_steps_of_fileName hName with
    ⟨front, hSteps, -, hNamed⟩
  rcases parentDir_of_bodyPieces
      (bodyPieces_of_fileName hName) with
    ⟨hParent, hAbsolute⟩
  rw [hSteps, List.dropLast_concat] at hParent
  unfold place origin
  rw [stepNames_eq_map, stepNames_eq_map, hSteps, hParent,
    hAbsolute, List.map_append, FileTree.walk_append,
    List.map_singleton, String.ofList_toList]
  exact FileTree.step_of_name hNamed

/- A path without pieces has no steps, and one stays where
   it starts. -/
theorem place_of_no_pieces
    (hNone : p.bodyPieces = [])
    (workDir : Location) :
    p.place workDir = p.origin workDir ∧
      p.parentDir.place workDir = workDir := by
  have hSteps : p.steps = [] := by
    rw [steps_eq_filter, hNone]
    rfl
  have hParent : p.parentDir = ⟨"."⟩ := by
    unfold parentDir parent?
    dsimp only
    rw [if_pos hNone]
    split_ifs
    · rfl
    · rfl
  rw [hParent]
  constructor
  · unfold place
    rw [stepNames_eq_map, hSteps]
    rfl
  · rfl

/- A path without a file name does not lead deeper than its
   directory. -/
theorem length_place_le
    (hName : p.fileName? = none)
    (workDir : Location) :
    (p.place workDir).length ≤
      (p.parentDir.place workDir).length := by
  by_cases hNone : p.bodyPieces = []
  · rcases place_of_no_pieces hNone workDir with
      ⟨hPlace, hParent⟩
    rw [hPlace, hParent, origin]
    split_ifs
    · exact Nat.zero_le _
    · exact Nat.le_refl _
  · rcases parentDir_of_bodyPieces hNone with
      ⟨hParent, hAbsolute⟩
    let up : List Char := ['.', '.']
    have hLast : p.bodyPieces.getLast? = some up := by
      unfold fileName? at hName
      split at hName
      next hNil =>
        exact absurd (List.getLast?_eq_none_iff.mp hNil) hNone
      next piece hPiece =>
        split at hName
        next hUp => rw [hPiece, hUp]
        next => cases hName
    rcases List.getLast?_eq_some_iff.mp hLast with
      ⟨front, hPieces⟩
    have hSteps :
        p.steps = front.filter (!isIdle ·) ++ [up] := by
      rw [steps_eq_filter, hPieces, List.filter_append]
      rfl
    rw [hSteps, List.dropLast_concat] at hParent
    unfold place origin
    rw [stepNames_eq_map, stepNames_eq_map, hSteps, hParent,
      hAbsolute, List.map_append, FileTree.walk_append]
    change (List.dropLast _).length ≤ _
    rw [List.length_dropLast]
    exact Nat.sub_le _ _

theorem parentDir_ne_empty (p : Path) :
    p.parentDir.text ≠ "" := by
  unfold parentDir
  split
  next =>
    split
    next => decide
    next hText => exact hText
  next => decide

------------------------------------------------------------
-- Joined Names
------------------------------------------------------------

theorem isIdle_of_named
    (hNamed : FileTree.isNameless name = false) :
    isIdle name.toList = false := by
  simp only [FileTree.isNameless, Bool.or_eq_false_iff,
    decide_eq_false_iff_not] at hNamed
  rcases hNamed with ⟨⟨hEmpty, hDot⟩, -⟩
  simp only [isIdle, Bool.or_eq_false_iff,
    decide_eq_false_iff_not]
  constructor
  · exact fun hNil => hEmpty (String.toList_eq_nil_iff.mp hNil)
  · exact fun hSame => hDot (String.toList_injective hSame)

theorem isAbsolute_of_notMem
    (hSeparator : separator ∉ name.toList) :
    isAbsolute ⟨name⟩ = false := by
  apply decide_eq_false
  intro hHead
  exact hSeparator (List.mem_of_mem_head? hHead)

/- A name is one step. -/
theorem stepsOf_of_named
    (hSeparator : separator ∉ name.toList)
    (hNamed : FileTree.isNameless name = false) :
    stepsOf name.toList = [name.toList] := by
  rw [stepsOf, piecesOf_of_notMem hSeparator]
  simp [isIdle_of_named hNamed]

theorem componentOf_of_named
    (hNamed : FileTree.isNameless name = false) :
    componentOf name.toList = .name name := by
  simp only [FileTree.isNameless, Bool.or_eq_false_iff,
    decide_eq_false_iff_not] at hNamed
  have hUp : name.toList ≠ ['.', '.'] := fun hSame =>
    hNamed.2 (String.toList_injective hSame)
  rw [componentOf, if_neg hUp, String.ofList_toList]

/- The front and the body make up the text. -/
theorem append_splitAnchor (text : List Char) :
    (splitAnchor text).1 ++ (splitAnchor text).2 = text := by
  unfold splitAnchor
  split
  next => rfl
  next => rfl
  next => rfl
  next => rfl

/- A name alone is a path of one component. -/
theorem components_of_named
    (hSeparator : separator ∉ name.toList)
    (hNamed : FileTree.isNameless name = false) :
    components ⟨name⟩ = [.name name] := by
  have hAnchor : (splitAnchor name.toList).1 = [] := by
    rcases hSplit : splitAnchor name.toList with
      ⟨anchor, body⟩
    have hBody := stepsOf_splitAnchor name.toList
    have hText := append_splitAnchor name.toList
    rw [hSplit, stepsOf_of_named hSeparator hNamed] at hBody
    rw [hSplit] at hText
    rcases splitAnchor_cases hSplit with
      ⟨_, hHead⟩ | ⟨_, _, rfl | ⟨rest, rfl⟩⟩ | ⟨hNone, _⟩
    · exact
        absurd (List.mem_of_mem_head? hHead) hSeparator
    · cases hBody
    · refine absurd ?_ hSeparator
      rw [← hText]
      exact List.mem_append_right _ List.mem_cons_self
    · exact hNone
  rw [components_eq, hAnchor, steps,
    stepsOf_of_named hSeparator hNamed, List.map_singleton,
    componentOf_of_named hNamed]
  rfl

/- A path is joined from the characters of its parts and
   separators. -/
theorem mem_join
    {c : Char}
    (hMem : c ∈ (p / name).text.toList) :
    c ∈ p.text.toList ∨ c = '/' ∨ c ∈ name.toList := by
  change c ∈ (p.join name).text.toList at hMem
  unfold join at hMem
  split at hMem
  next => exact Or.inr (Or.inr hMem)
  next =>
    split at hMem
    next => exact Or.inr (Or.inr hMem)
    next =>
      split at hMem
      next =>
        rw [String.toList_append, List.mem_append] at hMem
        exact hMem.imp_right Or.inr
      next =>
        rw [String.toList_append, String.toList_append,
          List.append_assoc, List.mem_append,
          List.mem_append] at hMem
        simpa using hMem

/- What is joined to a path starts where the path starts. -/
theorem isAbsolute_join
    (hText : p.text ≠ "")
    (hRelative : isAbsolute ⟨name⟩ = false) :
    (p / name).isAbsolute = p.isAbsolute := by
  have hSome : p.text.toList ≠ [] := fun hNil =>
    hText (String.toList_eq_nil_iff.mp hNil)
  change (p.join name).isAbsolute = _
  unfold join
  rw [if_neg (Bool.eq_false_iff.mp hRelative)]
  split
  next hNone =>
    exact absurd (List.getLast?_eq_none_iff.mp hNone) hSome
  next =>
    split
    next =>
      unfold isAbsolute
      rw [String.toList_append,
        List.head?_append_of_ne_nil _ hSome]
    next =>
      unfold isAbsolute
      rw [String.toList_append, String.toList_append,
        List.append_assoc, List.head?_append_of_ne_nil _ hSome]

/- A name that is joined to a path leads on from it. -/
theorem place_join
    (hText : p.text ≠ "")
    (hSeparator : separator ∉ name.toList)
    (hNamed : FileTree.isNameless name = false)
    (workDir : Location) :
    (p / name).place workDir = p.place workDir ++ [name] := by
  have hRelative := isAbsolute_of_notMem hSeparator
  have hStep := stepsOf_of_named hSeparator hNamed
  have hAbsolute := isAbsolute_join hText hRelative
  unfold place origin
  rw [stepNames_eq_map, stepNames_eq_map,
    steps_join p hRelative, hStep, hAbsolute, List.map_append,
    FileTree.walk_append, List.map_singleton,
    String.ofList_toList]
  exact FileTree.step_of_name hNamed

/- It is one more component of the path. -/
theorem components_join_name
    (p : Path)
    (hSeparator : separator ∉ name.toList)
    (hNamed : FileTree.isNameless name = false) :
    (p / name).components = p.components ++ [.name name] := by
  have hRelative := isAbsolute_of_notMem hSeparator
  by_cases hText : p.text = ""
  · have hJoined : p / name = ⟨name⟩ := by
      change p.join name = _
      rw [join, hRelative, hText]
      rfl
    have hNone : p.components = [] := by
      unfold components
      rw [hText]
      rfl
    rw [hJoined, hNone,
      components_of_named hSeparator hNamed]
    rfl
  · rw [components_join hText hRelative,
      stepsOf_of_named hSeparator hNamed,
      List.map_singleton, componentOf_of_named hNamed]

------------------------------------------------------------
-- Stems
------------------------------------------------------------

/- What stands in front of the last dot is the stem. -/
theorem stemOf_append
    {stem ending : List Char}
    (hStem : stem ≠ [])
    (hEnding : '.' ∉ ending) :
    stemOf (stem ++ '.' :: ending) = stem := by
  unfold stemOf
  have hDrop :
      (stem ++ '.' :: ending).reverse.dropWhile (· ≠ '.') =
        '.' :: stem.reverse := by
    rw [List.reverse_append, List.reverse_cons,
      List.append_assoc, List.dropWhile_append_of_pos]
    · rfl
    · intro c hMem
      rw [List.mem_reverse] at hMem
      simp only [decide_eq_true_eq]
      rintro rfl
      exact hEnding hMem
  rw [hDrop]
  split
  next hNil => cases hNil
  next hDot =>
    injection hDot with _ hNil
    exact absurd (List.reverse_eq_nil_iff.mp hNil) hStem
  next front _ hFront =>
    injection hFront with _ hSame
    rw [← hSame, List.reverse_reverse]
  next hOther => exact absurd rfl (hOther _)

/- A name is not made of its own stem, more text and an
   ending, since that text would be part of the stem. -/
theorem ne_stemOf_append
    {text tag ending : List Char}
    (hTag : tag ≠ [])
    (hEnding : '.' ∉ ending) :
    text ≠ stemOf text ++ tag ++ '.' :: ending := by
  intro hSame
  have hSome : stemOf text ++ tag ≠ [] :=
    List.append_ne_nil_of_right_ne_nil _ hTag
  have hStem := stemOf_append hSome hEnding
  rw [← hSame] at hStem
  exact hTag (List.append_right_eq_self.mp hStem.symm)

/- A stem has characters of the name only. -/
theorem mem_of_mem_stemOf
    {text : List Char}
    {c : Char}
    (hMem : c ∈ stemOf text) :
    c ∈ text := by
  have hSuffix :
      text.reverse.dropWhile (· ≠ '.') <:+ text.reverse :=
    List.dropWhile_suffix _
  unfold stemOf at hMem
  split at hMem
  next => exact hMem
  next => exact hMem
  next stem _ hDrop =>
    rw [hDrop] at hSuffix
    rw [← List.mem_reverse]
    apply hSuffix.subset
    exact List.mem_cons_of_mem _ (List.mem_reverse.mp hMem)
  next => exact hMem

end Path

end LatencySweep
