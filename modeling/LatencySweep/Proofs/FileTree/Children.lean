import LatencySweep.Proofs.FileTree.Locate
import LatencySweep.Proofs.Path.Alike

/-
  Directories next to each other.

  The directories in question are children of one directory,
  their root. As long as the root is there, what can be done
  with a child depends on the text of its path and on what
  stands at its place, and nothing that is done with it
  changes what stands at the place of another child.

  Main declarations:
    * `FileTree.standing`
    * `FileTree.HasRoot`
    * `Path.IsChild`
    * `FileTree.standing_child`
    * `FileTree.createDirectory_child`
    * `FileTree.Creates.standing_sibling`
-/

namespace LatencySweep

------------------------------------------------------------
-- What Stands at a Path
------------------------------------------------------------

/- The entry is a directory. -/
def Entry.isDirectory : Entry → Bool
  | directory => true
  | file _ => false

namespace FileTree

variable {tree next : FileTree}
variable {root dir other : Path} {name name' : String}

/- Whether what stands at a path is a directory, if there is
   something. -/
def standing (tree : FileTree) (p : Path) : Option Bool :=
  match tree.locate p with
  | .error _ => none
  | .ok target =>
      (tree.find? target.location).map Entry.isDirectory

theorem isDirectory_iff_standing {p : Path} :
    tree.isDirectory p = true ↔
      tree.standing p = some true := by
  unfold isDirectory standing
  cases tree.locate p with
  | error e => simp
  | ok target =>
      dsimp only
      cases hFind : tree.find? target.location with
      | none => simp
      | some entry =>
          cases entry with
          | directory => simp [Entry.isDirectory]
          | file content => simp [Entry.isDirectory]

/- The root is there. The empty path stands for the working
   directory, which need not be looked for. -/
def HasRoot (tree : FileTree) (root : Path) : Prop :=
  root.text = "" ∨ tree.isDirectory root = true

theorem HasRoot.reaches
    (hRoot : tree.HasRoot root) :
    tree.Reaches root := by
  rcases hRoot with hText | hDirectory
  · cases root
    cases hText
    exact canWalk_nil _
  · exact (isDirectory_iff.mp hDirectory).2.1

theorem HasRoot.extends
    (hRoot : tree.HasRoot root)
    (hExtends : tree.Extends next) :
    next.HasRoot root :=
  hRoot.imp_right hExtends.isDirectory

end FileTree

------------------------------------------------------------
-- Children
------------------------------------------------------------

/- The path leads on from the root by one name, and the name
   is its last piece, as it has a dash. -/
structure Path.IsChild
    (root : Path)
    (name : String)
    (dir : Path) : Prop where
  components :
    dir.components = root.components ++ [.name name]
  dashed : Path.IsDashed dir.text.toList

/- A piece with a dash is a step. -/
theorem Path.isIdle_of_dash
    {piece : List Char}
    (hDash : '-' ∈ piece) :
    isIdle piece = false := by
  cases hIdle : isIdle piece with
  | false => rfl
  | true =>
      simp only [isIdle, Bool.or_eq_true,
        decide_eq_true_eq] at hIdle
      rcases hIdle with rfl | rfl
      · cases hDash
      · exact absurd hDash (by decide)

namespace Path.IsChild

variable {root dir other : Path} {name : String}

/- A child starts where the root starts. -/
theorem origin
    (hChild : root.IsChild name dir)
    (workDir : Location) :
    dir.origin workDir = root.origin workDir := by
  have hAbsolute : dir.isAbsolute = root.isAbsolute := by
    rw [Bool.eq_iff_iff, isAbsolute_iff, isAbsolute_iff,
      hChild.components]
    cases root.components with
    | nil => simp
    | cons first rest => rfl
  rw [Path.origin, Path.origin, hAbsolute]

/- The pieces of a child are the name and others that lead
   to the root. -/
theorem exists_pieces
    (hChild : root.IsChild name dir) :
    ∃ front,
      piecesOf dir.text.toList = front ++ [name.toList] ∧
        FileTree.stepNames front = root.stepNames ∧
        '-' ∈ name.toList := by
  have hSteps := steps_eq_of_components hChild.components
  rcases List.eq_nil_or_concat
      (piecesOf dir.text.toList) with
    hNil | ⟨front, last, hPieces⟩
  · exact absurd hNil (piecesOf_ne_nil _)
  · rw [List.concat_eq_append] at hPieces
    have hDash : '-' ∈ last := by
      apply hChild.dashed
      rw [hPieces]
      exact List.getLast?_concat
    have hStep := isIdle_of_dash hDash
    have hFilter :
        dir.steps =
          front.filter (!isIdle ·) ++ [last] := by
      rw [steps, stepsOf, hPieces, List.filter_append]
      simp [hStep]
    rw [hSteps] at hFilter
    rcases List.append_inj' hFilter rfl with
      ⟨hFront, hLast⟩
    have hName : name.toList = last :=
      List.singleton_inj.mp hLast
    refine ⟨front, hName ▸ hPieces, ?_, hName ▸ hDash⟩
    rw [FileTree.stepNames, ← hFront]
    rfl

/- A name with a dash is a name. -/
theorem isNameless_of_dash
    {name : String}
    (hDash : '-' ∈ name.toList) :
    FileTree.isNameless name = false := by
  cases hNameless : FileTree.isNameless name with
  | false => rfl
  | true =>
      simp only [FileTree.isNameless, Bool.or_eq_true,
        decide_eq_true_eq] at hNameless
      rcases hNameless with (rfl | rfl) | rfl
      · exact absurd hDash (by decide)
      · exact absurd hDash (by decide)
      · exact absurd hDash (by decide)

theorem stepNames
    (hChild : root.IsChild name dir) :
    dir.stepNames = root.stepNames ++ [name] := by
  have hSteps := steps_eq_of_components hChild.components
  rw [stepNames_eq_map, stepNames_eq_map, hSteps]
  simp

/- The place of a child is that of the root, and its name. -/
theorem place
    (hChild : root.IsChild name dir)
    (workDir : Location) :
    dir.place workDir = root.place workDir ++ [name] := by
  rcases hChild.exists_pieces with ⟨_, _, _, hDash⟩
  rw [Path.place, hChild.stepNames, hChild.origin,
    FileTree.walk_append]
  exact FileTree.step_of_name (isNameless_of_dash hDash)

/- While the root can be reached, the path of a child can be
   followed up to its name. -/
theorem locate
    {tree : FileTree}
    (hChild : root.IsChild name dir)
    (hReaches : tree.Reaches root)
    (hRefusal : dir.refusal? = none) :
    tree.locate dir =
      if FileTree.maxName < name.utf8ByteSize then
        .error .nameTooLong
      else
        .ok ⟨dir.place tree.workDir, true,
          dir.text.toList.getLast? = some separator⟩ := by
  rcases hChild.exists_pieces with
    ⟨front, hPieces, hFront, hDash⟩
  let names := (front.filter (· ≠ [])).map String.ofList
  have hNames : dir.pieceNames = names ++ [name] := by
    have hSome : name.toList ≠ [] :=
      List.ne_nil_of_mem hDash
    rw [pieceNames, hPieces, List.filter_append]
    simp [names, hSome]
  have hSteps :
      FileTree.stepNames (front.filter (· ≠ [])) =
        root.stepNames := by
    rw [FileTree.stepNames_filter, hFront]
  have hEnter :
      tree.enterAll (dir.origin tree.workDir) names =
        .ok (root.place tree.workDir) := by
    rw [FileTree.enterAll_eq_ok_iff, hChild.origin,
      ← FileTree.walk_stepNames,
      ← FileTree.canWalk_stepNames, hSteps]
    exact ⟨rfl, hReaches⟩
  rw [FileTree.locate_of_append tree hRefusal hNames, hEnter,
    hChild.place]
  exact
    FileTree.targetOf_name _ (isNameless_of_dash hDash)

end Path.IsChild

namespace FileTree

variable {tree next : FileTree}
variable {root dir other : Path} {name name' : String}

/- What stands at a child, if its path is not refused. -/
theorem standing_child
    (hChild : root.IsChild name dir)
    (hRoot : tree.HasRoot root) :
    tree.standing dir =
      if dir.refusal? = none ∧
          name.utf8ByteSize ≤ maxName then
        (tree.find? (dir.place tree.workDir)).map
          Entry.isDirectory
      else none := by
  unfold standing
  cases hRefusal : dir.refusal? with
  | some e => simp [tree.locate_of_refusal hRefusal]
  | none =>
      rw [hChild.locate hRoot.reaches hRefusal]
      by_cases hLong : maxName < name.utf8ByteSize
      · simp [hLong, Nat.not_le.mpr hLong]
      · simp [hLong, Nat.not_lt.mp hLong]

/- How the creation of a child ends, by what stands there. -/
def creation
    (name : String)
    (dir : Path) : Option Bool → Except OsError Unit
  | standing =>
      match dir.refusal? with
      | some e => .error e
      | none =>
          if maxName < name.utf8ByteSize then
            .error .nameTooLong
          else
            match standing with
            | some _ => .error .alreadyExists
            | none => .ok ()

theorem createDirectory_child
    (hChild : root.IsChild name dir)
    (hRoot : tree.HasRoot root) :
    (tree.createDirectory dir).map (fun _ => ()) =
      creation name dir (tree.standing dir) := by
  rw [standing_child hChild hRoot]
  unfold createDirectory creation
  cases hRefusal : dir.refusal? with
  | some e =>
      rw [tree.locate_of_refusal hRefusal]
      rfl
  | none =>
      rw [hChild.locate hRoot.reaches hRefusal]
      by_cases hLong : maxName < name.utf8ByteSize
      · simp [hLong]
        rfl
      · simp [hLong, Nat.not_lt.mp hLong]
        cases tree.find? (dir.place tree.workDir) with
        | none => rfl
        | some entry => rfl

/- A child that is created changes nothing at another. -/
theorem Creates.standing_sibling
    (hCreates : tree.Creates dir next)
    (hChild : root.IsChild name dir)
    (hOther : root.IsChild name' other)
    (hRoot : tree.HasRoot root)
    (hNames : name ≠ name') :
    next.standing other = tree.standing other := by
  have hExtends := hCreates.extends
  rw [standing_child hOther hRoot,
    standing_child hOther (hRoot.extends hExtends)]
  have hPlaces :
      other.place tree.workDir ≠ dir.place tree.workDir := by
    rw [hChild.place, hOther.place]
    simpa using hNames.symm
  rw [hExtends.workDir, hCreates.next_eq,
    find?_put_of_ne _ _ hPlaces]

end FileTree

end LatencySweep
