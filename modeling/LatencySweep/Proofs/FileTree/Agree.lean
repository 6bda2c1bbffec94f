import LatencySweep.Proofs.FileTree.Write

/-
  Trees that agree up to one file.

  Two trees differ at most in the content of one file. Then
  every path leads to the same place in both or fails in the
  same way, and what is written to both leaves them as much
  alike as they were.

  Main declarations:
    * `FileTree.AgreesUpTo`
    * `FileTree.AgreesUpTo.locate_eq`
    * `FileTree.AgreesUpTo.read_eq`
    * `FileTree.AgreesUpTo.write_cases`
-/

namespace LatencySweep

namespace FileTree

variable {tree other : FileTree} {place : Location} {p : Path}

/- There are files at the place, and everything else is the
   same. -/
structure AgreesUpTo
    (place : Location)
    (tree other : FileTree) : Prop where
  workDir : other.workDir = tree.workDir
  elsewhere :
    ∀ spot, spot ≠ place → other.find? spot = tree.find? spot
  file : ∃ content, tree.find? place = some (.file content)
  otherFile :
    ∃ content, other.find? place = some (.file content)

namespace AgreesUpTo

------------------------------------------------------------
-- Finding Places
------------------------------------------------------------

/- The same directories and files stand in both trees. -/
theorem find?_cases
    (hAgrees : AgreesUpTo place tree other)
    (spot : Location) :
    other.find? spot = tree.find? spot ∨
      ∃ content content',
        tree.find? spot = some (.file content) ∧
          other.find? spot = some (.file content') := by
  by_cases hSpot : spot = place
  · rcases hAgrees.file with ⟨content, hFile⟩
    rcases hAgrees.otherFile with ⟨content', hOther⟩
    rw [hSpot]
    exact Or.inr ⟨content, content', hFile, hOther⟩
  · exact Or.inl (hAgrees.elsewhere spot hSpot)

theorem enter_eq
    (hAgrees : AgreesUpTo place tree other)
    (start : Location)
    (piece : String) :
    other.enter start piece = tree.enter start piece := by
  unfold enter
  rcases hAgrees.find?_cases (start ++ [piece]) with
    hSame | ⟨content, content', hFile, hOther⟩
  · rw [hSame]
  · rw [hFile, hOther]

theorem enterAll_eq
    (hAgrees : AgreesUpTo place tree other)
    (start : Location)
    (pieces : List String) :
    other.enterAll start pieces =
      tree.enterAll start pieces := by
  induction pieces generalizing start with
  | nil => rfl
  | cons piece pieces ih =>
      rw [enterAll, enterAll, hAgrees.enter_eq]
      cases tree.enter start piece with
      | error e => rfl
      | ok next => exact ih next

/- A path leads to the same place or fails in the same
   way. -/
theorem locate_eq
    (hAgrees : AgreesUpTo place tree other)
    (p : Path) :
    other.locate p = tree.locate p := by
  unfold locate targetOf
  simp only [hAgrees.workDir, hAgrees.enterAll_eq,
    hAgrees.enter_eq]

/- A path that does not lead to the file reads the same. -/
theorem read_eq
    (hAgrees : AgreesUpTo place tree other)
    (hElsewhere : p.place tree.workDir ≠ place) :
    other.read p = tree.read p := by
  unfold read
  rw [hAgrees.locate_eq]
  cases hLocate : tree.locate p with
  | error e => rfl
  | ok target =>
      dsimp only
      rw [hAgrees.elsewhere]
      rwa [location_eq_place hLocate]

------------------------------------------------------------
-- Writing
------------------------------------------------------------

/- The same file that is put into both trees keeps them
   alike. -/
theorem put
    (hAgrees : AgreesUpTo place tree other)
    {spot : Location}
    (hSpot : spot ≠ [])
    (content : Bytes) :
    AgreesUpTo place (tree.put spot (.file content))
      (other.put spot (.file content)) := by
  have hPut (base : FileTree)
      (hFile : ∃ content, base.find? place =
        some (.file content)) :
      ∃ content', (base.put spot (.file content)).find? place =
        some (.file content') := by
    by_cases hSame : place = spot
    · rw [hSame, find?_put_self _ _ hSpot]
      exact ⟨content, rfl⟩
    · rwa [find?_put_of_ne _ _ hSame]
  refine
    { workDir := hAgrees.workDir
      elsewhere := ?_
      file := hPut tree hAgrees.file
      otherFile := hPut other hAgrees.otherFile }
  intro other' hOther
  by_cases hSame : other' = spot
  · rw [hSame, find?_put_self _ _ hSpot,
      find?_put_self _ _ hSpot]
  · rw [find?_put_of_ne _ _ hSame, find?_put_of_ne _ _ hSame]
    exact hAgrees.elsewhere other' hOther

/- A file is opened at the same place in both trees, or it
   cannot be opened for the same reason. -/
theorem openForWriting_eq
    (hAgrees : AgreesUpTo place tree other)
    (p : Path) :
    (other.openForWriting p).map Prod.fst =
      (tree.openForWriting p).map Prod.fst := by
  unfold openForWriting
  rw [hAgrees.locate_eq]
  cases tree.locate p with
  | error e => rfl
  | ok target =>
      dsimp only
      split
      next => rfl
      next =>
        rcases hAgrees.find?_cases target.location with
          hSame | ⟨content, content', hFile, hOther⟩
        · rw [hSame]
        · rw [hFile, hOther]
          rfl

/- A write fails in both trees in the same way, or it leaves
   them alike. -/
theorem write_cases
    (hAgrees : AgreesUpTo place tree other)
    (p : Path)
    (content : Bytes) :
    (∃ e,
        tree.write p content = .error e ∧
          other.write p content = .error e) ∨
      ∃ next next',
        tree.write p content = .ok next ∧
          other.write p content = .ok next' ∧
            AgreesUpTo place next next' := by
  have hOpen := hAgrees.openForWriting_eq p
  cases hTree : tree.openForWriting p with
  | error e =>
      rw [hTree] at hOpen
      left
      refine ⟨e, ?_, ?_⟩
      · rw [FileTree.write, hTree]
      · cases hOther : other.openForWriting p with
        | error e' =>
            rw [hOther] at hOpen
            cases hOpen
            rw [FileTree.write, hOther]
        | ok opened =>
            rw [hOther] at hOpen
            cases hOpen
  | ok opened =>
      rcases opened with ⟨spot, old⟩
      rw [hTree] at hOpen
      right
      cases hOther : other.openForWriting p with
      | error e =>
          rw [hOther] at hOpen
          cases hOpen
      | ok opened' =>
          rcases opened' with ⟨spot', old'⟩
          rw [hOther] at hOpen
          cases hOpen
          have hWrite : tree.write p content =
              .ok (tree.put spot (.file content)) := by
            rw [FileTree.write, hTree]
          rcases openForWriting_eq_ok hTree with
            ⟨rfl, hFree, -⟩
          refine
            ⟨_, _, hWrite, ?_,
              hAgrees.put (ne_root_of_free hFree) content⟩
          rw [FileTree.write, hOther]

end AgreesUpTo

end FileTree

end LatencySweep
