import LatencySweep.Host.Path
import LatencySweep.Proofs.Text.Words

/-
  The steps that the text of a path asks for.

  The steps are the pieces that are not idle. They do not
  depend on how the front of a path is told from its body,
  and together with the front they make the components.

  Main declarations:
    * `Path.stepsOf`
    * `Path.components_eq`
    * `Path.steps_eq_of_components`
    * `Path.isAbsolute_iff`
    * `Path.piecesOf_inj`
-/

namespace LatencySweep

namespace Path

------------------------------------------------------------
-- Pieces
------------------------------------------------------------

theorem piecesOf_ne_nil (text : List Char) :
    piecesOf text ≠ [] :=
  List.splitOn_ne_nil _ _

@[simp] theorem piecesOf_nil : piecesOf [] = [[]] := rfl

@[simp] theorem piecesOf_cons_separator
    (text : List Char) :
    piecesOf ('/' :: text) = [] :: piecesOf text := by
  unfold piecesOf
  rw [List.splitOn_cons_eq_if_modifyHead]
  rfl

/- Any other character goes in front of the first piece. -/
theorem exists_piecesOf_cons
    {c : Char}
    (text : List Char)
    (hName : c ≠ '/') :
    ∃ piece pieces,
      piecesOf text = piece :: pieces ∧
        piecesOf (c :: text) = (c :: piece) :: pieces := by
  rcases List.exists_cons_of_ne_nil
      (piecesOf_ne_nil text) with ⟨piece, pieces, hPieces⟩
  refine ⟨piece, pieces, hPieces, ?_⟩
  have hSplit :
      piecesOf (c :: text) =
        (piecesOf text).modifyHead (c :: ·) := by
    unfold piecesOf
    rw [List.splitOn_cons_eq_if_modifyHead, if_neg]
    simpa [separator] using hName
  rw [hSplit, hPieces, List.modifyHead_cons]

/- The pieces tell the text. -/
theorem piecesOf_inj
    {text other : List Char}
    (hPieces : piecesOf text = piecesOf other) :
    text = other := by
  have hJoined :=
    congrArg (List.intercalate [separator]) hPieces
  unfold piecesOf at hJoined
  rwa [List.intercalate_splitOn, List.intercalate_splitOn]
    at hJoined

/- There is no separator in a piece. -/
theorem notMem_of_mem_piecesOf
    {text piece : List Char}
    (hPiece : piece ∈ piecesOf text) :
    separator ∉ piece := by
  intro hMember
  have hNot := forall_mem_of_mem_splitOnP hPiece _ hMember
  exact beq_eq_false_iff_ne.mp hNot rfl

/- A text without separators is a single piece. -/
theorem piecesOf_of_notMem
    {text : List Char}
    (hText : separator ∉ text) :
    piecesOf text = [text] :=
  List.splitOn_eq_singleton hText

------------------------------------------------------------
-- Steps
------------------------------------------------------------

/- The pieces of a text that lead somewhere. -/
def stepsOf (text : List Char) : List (List Char) :=
  (piecesOf text).filter (!isIdle ·)

/- The steps of a path. -/
def steps (p : Path) : List (List Char) :=
  stepsOf p.text.toList

@[simp] theorem stepsOf_cons_separator (text : List Char) :
    stepsOf ('/' :: text) = stepsOf text := by
  unfold stepsOf
  rw [piecesOf_cons_separator]
  rfl

/- A `.` in front of a separator leads nowhere. -/
@[simp] theorem stepsOf_dot_separator (text : List Char) :
    stepsOf ('.' :: '/' :: text) = stepsOf text := by
  rcases exists_piecesOf_cons ('/' :: text)
      (by decide : '.' ≠ '/') with
    ⟨piece, pieces, hPieces, hDot⟩
  rw [piecesOf_cons_separator] at hPieces
  cases hPieces
  unfold stepsOf
  rw [hDot]
  rfl

/- What the front of a path takes away leads nowhere. -/
theorem stepsOf_splitAnchor (text : List Char) :
    stepsOf (splitAnchor text).2 = stepsOf text := by
  unfold splitAnchor
  split
  next rest => exact (stepsOf_cons_separator rest).symm
  next => rfl
  next rest =>
    rw [stepsOf_cons_separator, stepsOf_dot_separator]
  next => rfl

------------------------------------------------------------
-- Components
------------------------------------------------------------

theorem componentOf_inj
    {piece other : List Char}
    (hSame : componentOf piece = componentOf other) :
    piece = other := by
  unfold componentOf at hSame
  split at hSame <;> split at hSame
  next hPiece hOther => rw [hPiece, hOther]
  next => cases hSame
  next => cases hSame
  next =>
    injection hSame with hText
    exact String.ofList_injective hText

/- The components are the front and the steps. -/
theorem components_eq (p : Path) :
    p.components =
      anchorComponents (splitAnchor p.text.toList).1 ++
        p.steps.map componentOf := by
  unfold components steps
  rw [← stepsOf_splitAnchor]
  rfl

/- The component stands for a step. -/
def Component.isStep : Component → Bool
  | root | here => false
  | up | name _ => true

/- The front has no steps, and the rest has no others. -/
theorem filter_isStep_components (p : Path) :
    p.components.filter Component.isStep =
      p.steps.map componentOf := by
  have hFront (anchor : List Char) :
      (anchorComponents anchor).filter Component.isStep =
        [] := by
    unfold anchorComponents
    split <;> rfl
  have hBody (pieces : List (List Char)) :
      (pieces.map componentOf).filter Component.isStep =
        pieces.map componentOf := by
    apply List.filter_eq_self.mpr
    intro component hComponent
    rcases List.mem_map.mp hComponent with ⟨piece, _, rfl⟩
    unfold componentOf
    split <;> rfl
  rw [components_eq, List.filter_append, hFront, hBody,
    List.nil_append]

/- A path with one name more has one step more. -/
theorem steps_eq_of_components
    {p child : Path}
    {name : String}
    (hChild :
      child.components = p.components ++ [.name name]) :
    child.steps = p.steps ++ [name.toList] := by
  have hSteps :=
    congrArg (List.filter Component.isStep) hChild
  rw [List.filter_append, filter_isStep_components,
    filter_isStep_components] at hSteps
  rcases List.map_eq_append_iff.mp hSteps with
    ⟨front, back, hSplit, hFront, hBack⟩
  have hSame : front = p.steps :=
    (List.map_inj_right fun _ _ => componentOf_inj).mp
      hFront
  rcases List.map_eq_singleton_iff.mp hBack with
    ⟨piece, rfl, hPiece⟩
  unfold componentOf at hPiece
  split at hPiece
  next => cases hPiece
  next =>
    cases hPiece
    rw [hSplit, hSame, String.toList_ofList]

/- Whether a path starts at the root is told by its first
   component. -/
theorem isAbsolute_iff (p : Path) :
    p.isAbsolute = true ↔
      p.components.head? = some .root := by
  have hBody :
      (p.steps.map componentOf).head? ≠ some .root := by
    rw [List.head?_map]
    intro hRoot
    rcases Option.map_eq_some_iff.mp hRoot with
      ⟨piece, _, hPiece⟩
    unfold componentOf at hPiece
    split at hPiece <;> cases hPiece
  rw [components_eq]
  unfold isAbsolute splitAnchor
  split
  next rest hText => simp [hText, anchorComponents, separator]
  next hText => simp [hText, anchorComponents, separator]
  next rest hText => simp [hText, anchorComponents, separator]
  next rest hRoot hDot hDots =>
    simp only [anchorComponents, List.nil_append, hBody,
      iff_false]
    intro hHead
    simp only [decide_eq_true_eq] at hHead
    rcases List.head?_eq_some_iff.mp hHead with
      ⟨rest, hText⟩
    exact hRoot rest hText

end Path

end LatencySweep
