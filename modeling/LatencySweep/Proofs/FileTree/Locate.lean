import LatencySweep.Proofs.FileTree.Walk

/-
  The places of paths, and what stands there.

  Some paths are refused for their text alone. Any other one
  leads to a directory if there is one at its place and all
  names on the way are those of directories. Directories
  that are created where nothing was change no such answer.

  Main declarations:
    * `Path.refusal?`
    * `Path.place`
    * `FileTree.isDirectory_iff`
    * `FileTree.creates_of_createDirectory`
    * `FileTree.Extends`
-/

namespace LatencySweep

------------------------------------------------------------
-- Places of Paths
------------------------------------------------------------

namespace Path

/- Why a path leads nowhere in any tree. -/
def refusal? (p : Path) : Option OsError :=
  if '\x00' ∈ p.text.toList then some .nulInPath
  else if p.text = "" then some .notFound
  else if FileTree.pathLimit ≤ p.text.utf8ByteSize then
    some .nameTooLong
  else none

/- The pieces of a path that are not empty. -/
def pieceNames (p : Path) : List String :=
  ((piecesOf p.text.toList).filter (· ≠ [])).map
    String.ofList

/- The names of the steps of a path. -/
def stepNames (p : Path) : List String :=
  FileTree.stepNames (piecesOf p.text.toList)

/- Where a path starts. -/
def origin (workDir : Location) (p : Path) : Location :=
  if p.isAbsolute then [] else workDir

/- Where a path leads. -/
def place (workDir : Location) (p : Path) : Location :=
  FileTree.walk (p.origin workDir) p.stepNames

/- The places that a path leads through by name. -/
def stops (workDir : Location) (p : Path) : List Location :=
  FileTree.visited (p.origin workDir) p.stepNames

theorem stepNames_eq_map (p : Path) :
    p.stepNames = p.steps.map String.ofList := rfl

/- The steps of a path are those of its pieces. -/
theorem stepNames_eq (p : Path) :
    p.stepNames =
      FileTree.stepNames
        ((piecesOf p.text.toList).filter (· ≠ [])) :=
  (FileTree.stepNames_filter _).symm

theorem walk_pieceNames
    (p : Path)
    (start : Location) :
    FileTree.walk start p.pieceNames =
      FileTree.walk start p.stepNames := by
  rw [stepNames_eq, FileTree.walk_stepNames]
  rfl

theorem visited_pieceNames
    (p : Path)
    (start : Location) :
    FileTree.visited start p.pieceNames =
      FileTree.visited start p.stepNames := by
  rw [stepNames_eq, FileTree.visited_stepNames]
  rfl

/- A piece is not empty. -/
theorem ne_empty_of_mem_pieceNames
    {p : Path}
    {piece : String}
    (hPiece : piece ∈ p.pieceNames) :
    piece ≠ "" := by
  rcases List.mem_map.mp hPiece with ⟨text, hText, rfl⟩
  have hSome := (List.mem_filter.mp hText).2
  intro hEmpty
  have hNil := congrArg String.toList hEmpty
  rw [String.toList_ofList] at hNil
  simp [hNil] at hSome

end Path

namespace FileTree

variable {tree : FileTree} {p : Path}

/- One gets to the place of the path. -/
def Reaches (tree : FileTree) (p : Path) : Prop :=
  tree.CanWalk (p.origin tree.workDir) p.stepNames

theorem reaches_iff :
    tree.Reaches p ↔
      tree.CanWalk (p.origin tree.workDir)
        p.pieceNames := by
  unfold Reaches
  rw [Path.stepNames_eq, canWalk_stepNames]
  rfl

------------------------------------------------------------
-- Locating
------------------------------------------------------------

/- A path that is refused leads nowhere. -/
theorem locate_of_refusal
    {e : OsError}
    (tree : FileTree)
    (hRefusal : p.refusal? = some e) :
    tree.locate p = .error e := by
  unfold Path.refusal? at hRefusal
  unfold locate
  split at hRefusal
  next hNul =>
    cases hRefusal
    rw [if_pos hNul]
  next hNul =>
    rw [if_neg hNul]
    split at hRefusal
    next hEmpty =>
      cases hRefusal
      rw [if_pos hEmpty]
    next hEmpty =>
      rw [if_neg hEmpty]
      split at hRefusal
      next hLong =>
        cases hRefusal
        rw [if_pos hLong]
      next => cases hRefusal

/- Any other path is followed up to its last piece. -/
theorem locate_of_pieces
    (tree : FileTree)
    (hRefusal : p.refusal? = none) :
    tree.locate p =
      match p.pieceNames.getLast? with
      | none => .ok ⟨p.origin tree.workDir, false, true⟩
      | some last =>
          match tree.enterAll (p.origin tree.workDir)
              p.pieceNames.dropLast with
          | .error e => .error e
          | .ok place =>
              tree.targetOf place last
                (p.text.toList.getLast? =
                  some Path.separator) := by
  unfold Path.refusal? at hRefusal
  split at hRefusal
  next => cases hRefusal
  next hNul =>
    split at hRefusal
    next => cases hRefusal
    next hEmpty =>
      split at hRefusal
      next => cases hRefusal
      next hLong =>
        unfold locate
        rw [if_neg hNul, if_neg hEmpty, if_neg hLong]
        rfl

theorem locate_of_append
    {front : List String}
    {last : String}
    (tree : FileTree)
    (hRefusal : p.refusal? = none)
    (hPieces : p.pieceNames = front ++ [last]) :
    tree.locate p =
      match tree.enterAll (p.origin tree.workDir) front with
      | .error e => .error e
      | .ok place =>
          tree.targetOf place last
            (p.text.toList.getLast? =
              some Path.separator) := by
  rw [locate_of_pieces tree hRefusal, hPieces]
  simp

/- A last piece that is no name leads to a place without
   one. -/
theorem targetOf_nameless
    {place : Location}
    {last : String}
    (closed : Bool)
    (hLast : last ≠ "")
    (hNameless : isNameless last = true) :
    tree.targetOf place last closed =
      .ok ⟨step place last, false, closed⟩ := by
  simp only [isNameless, Bool.or_eq_true,
    decide_eq_true_eq] at hNameless
  rcases hNameless with (rfl | rfl) | rfl
  · exact absurd rfl hLast
  · rfl
  · rfl

/- A name leads to the place of the name. -/
theorem targetOf_name
    {place : Location}
    {last : String}
    (closed : Bool)
    (hName : isNameless last = false) :
    tree.targetOf place last closed =
      if maxName < last.utf8ByteSize then
        .error .nameTooLong
      else .ok ⟨place ++ [last], true, closed⟩ := by
  simp only [isNameless, Bool.or_eq_false_iff,
    decide_eq_false_iff_not] at hName
  unfold targetOf
  rw [if_neg]
  simp [hName]

/- The last piece leads to a directory if one gets there and
   it is one. -/
theorem exists_targetOf_iff
    {place : Location}
    {last : String}
    (closed : Bool)
    (hLast : last ≠ "") :
    (∃ target,
      tree.targetOf place last closed = .ok target ∧
        tree.find? target.location = some .directory) ↔
      tree.CanWalk place [last] ∧
        tree.find? (step place last) =
          some .directory := by
  cases hName : isNameless last with
  | true =>
      rw [targetOf_nameless closed hLast hName]
      simp [canWalk_nameless hName]
  | false =>
      rw [targetOf_name closed hName, step_of_name hName,
        canWalk_name_iff hName]
      by_cases hLong : maxName < last.utf8ByteSize
      · simp [hLong, Nat.not_le.mpr hLong]
      · simp [hLong, Nat.not_lt.mp hLong]

theorem isDirectory_iff_exists :
    tree.isDirectory p = true ↔
      ∃ target,
        tree.locate p = .ok target ∧
          tree.find? target.location =
            some .directory := by
  unfold isDirectory
  cases tree.locate p with
  | error e => simp
  | ok target => simp

/-
  A path leads to a directory if one gets to its place and
  there is a directory.
-/
theorem isDirectory_iff :
    tree.isDirectory p = true ↔
      p.refusal? = none ∧ tree.Reaches p ∧
        tree.find? (p.place tree.workDir) =
          some .directory := by
  rw [isDirectory_iff_exists]
  cases hRefusal : p.refusal? with
  | some e =>
      simp [tree.locate_of_refusal hRefusal]
  | none =>
      rw [reaches_iff, Path.place, ← Path.walk_pieceNames]
      rcases List.eq_nil_or_concat p.pieceNames with
        hNil | ⟨front, last, hPieces⟩
      · have hLocate := locate_of_pieces tree hRefusal
        rw [hNil] at hLocate
        simp [hLocate, hNil, canWalk_nil, walk]
      · rw [List.concat_eq_append] at hPieces
        have hLast : last ≠ "" := by
          apply Path.ne_empty_of_mem_pieceNames
          rw [hPieces]
          exact List.mem_append_right _ List.mem_cons_self
        rw [locate_of_append tree hRefusal hPieces, hPieces,
          canWalk_append, walk_append]
        cases hFront :
            tree.enterAll (p.origin tree.workDir) front with
        | error e =>
            have hCannot :
                ¬ tree.CanWalk (p.origin tree.workDir)
                    front := by
              intro hCan
              have hOk := enterAll_eq_ok_iff.mpr ⟨rfl, hCan⟩
              rw [hFront] at hOk
              cases hOk
            simp [hCannot]
        | ok place =>
            rcases enterAll_eq_ok_iff.mp hFront with
              ⟨rfl, hCan⟩
            dsimp only
            rw [exists_targetOf_iff _ hLast]
            simp only [hCan, true_and]
            rfl

------------------------------------------------------------
-- Trees That Grow
------------------------------------------------------------

/- Everything that was there is still there. -/
structure Extends (tree next : FileTree) : Prop where
  workDir : next.workDir = tree.workDir
  keeps :
    ∀ place entry,
      tree.find? place = some entry →
        next.find? place = some entry

theorem Extends.canWalk
    {tree next : FileTree}
    {place : Location}
    {pieces : List String}
    (hExtends : tree.Extends next)
    (hCan : tree.CanWalk place pieces) :
    next.CanWalk place pieces :=
  { short := hCan.short
    directories := fun stop hStop =>
      hExtends.keeps stop .directory
        (hCan.directories stop hStop) }

theorem Extends.reaches
    {tree next : FileTree}
    (hExtends : tree.Extends next)
    (hReaches : tree.Reaches p) :
    next.Reaches p := by
  unfold Reaches
  rw [hExtends.workDir]
  exact hExtends.canWalk hReaches

theorem Extends.isDirectory
    {tree next : FileTree}
    (hExtends : tree.Extends next)
    (hDirectory : tree.isDirectory p = true) :
    next.isDirectory p = true := by
  rw [isDirectory_iff] at hDirectory ⊢
  rcases hDirectory with ⟨hRefusal, hReaches, hFind⟩
  rw [hExtends.workDir]
  exact
    ⟨hRefusal, hExtends.reaches hReaches,
      hExtends.keeps _ _ hFind⟩

/- Something new is put where nothing was. -/
theorem extends_put
    {place : Location}
    (entry : Entry)
    (hNone : tree.find? place = none) :
    tree.Extends (tree.put place entry) := by
  refine { workDir := rfl, keeps := ?_ }
  intro other old hOld
  rwa [find?_put_of_ne]
  rintro rfl
  rw [hNone] at hOld
  cases hOld

------------------------------------------------------------
-- Creating Directories
------------------------------------------------------------

/- A directory that is created is new, has a name, and can
   be reached from then on. -/
structure Creates
    (tree : FileTree)
    (p : Path)
    (next : FileTree) : Prop where
  fresh : tree.find? (p.place tree.workDir) = none
  next_eq :
    next = tree.put (p.place tree.workDir) .directory
  stops :
    p.place tree.workDir ∈ p.stops tree.workDir
  isDirectory : next.isDirectory p = true

/- The last piece of a path to something new is a name. -/
theorem exists_last_of_createDirectory
    {next : FileTree}
    (hCreate : tree.createDirectory p = .ok next) :
    ∃ front last,
      p.pieceNames = front ++ [last] ∧
        isNameless last = false ∧
        last.utf8ByteSize ≤ maxName ∧
        tree.CanWalk (p.origin tree.workDir) front ∧
        tree.find?
            (walk (p.origin tree.workDir) front ++ [last]) =
          none ∧
        next =
          tree.put
            (walk (p.origin tree.workDir) front ++ [last])
            .directory := by
  unfold createDirectory at hCreate
  cases hRefusal : p.refusal? with
  | some e =>
      rw [tree.locate_of_refusal hRefusal] at hCreate
      cases hCreate
  | none =>
      rcases List.eq_nil_or_concat p.pieceNames with
        hNil | ⟨front, last, hPieces⟩
      · rw [locate_of_pieces tree hRefusal, hNil] at hCreate
        cases hCreate
      · rw [List.concat_eq_append] at hPieces
        have hLast : last ≠ "" := by
          apply Path.ne_empty_of_mem_pieceNames
          rw [hPieces]
          exact List.mem_append_right _ List.mem_cons_self
        rw [locate_of_append tree hRefusal hPieces]
          at hCreate
        cases hFront :
            tree.enterAll (p.origin tree.workDir) front with
        | error e =>
            rw [hFront] at hCreate
            cases hCreate
        | ok place =>
            rcases enterAll_eq_ok_iff.mp hFront with
              ⟨rfl, hCan⟩
            rw [hFront] at hCreate
            dsimp only at hCreate
            refine ⟨front, last, hPieces, ?_⟩
            cases hName : isNameless last with
            | true =>
                rw [targetOf_nameless _ hLast hName]
                  at hCreate
                cases hCreate
            | false =>
                rw [targetOf_name _ hName] at hCreate
                by_cases hLong : maxName < last.utf8ByteSize
                · rw [if_pos hLong] at hCreate
                  cases hCreate
                · rw [if_neg hLong] at hCreate
                  dsimp only at hCreate
                  rw [if_neg (by simp)] at hCreate
                  split at hCreate
                  next => cases hCreate
                  next hNone =>
                    cases hCreate
                    exact
                      ⟨rfl, Nat.not_lt.mp hLong, hCan,
                        hNone, rfl⟩

theorem creates_of_createDirectory
    {next : FileTree}
    (hCreate : tree.createDirectory p = .ok next) :
    tree.Creates p next := by
  rcases exists_last_of_createDirectory hCreate with
    ⟨front, last, hPieces, hName, hShort, hCan, hNone,
      rfl⟩
  let start := p.origin tree.workDir
  have hPlace :
      p.place tree.workDir = walk start front ++ [last] := by
    rw [Path.place, ← Path.walk_pieceNames, hPieces,
      walk_append]
    exact step_of_name hName
  have hExtends :=
    extends_put Entry.directory hNone
  refine
    { fresh := hPlace ▸ hNone
      next_eq := by rw [hPlace]
      stops := ?_
      isDirectory := ?_ }
  · rw [hPlace, Path.stops, ← Path.visited_pieceNames,
      hPieces, visited_append]
    simp [visited, hName, start]
  · have hFind :
        (tree.put (walk start front ++ [last])
            .directory).find? (walk start front ++ [last]) =
          some .directory :=
      find?_put_self _ _ (by simp)
    rw [isDirectory_iff, hExtends.workDir, hPlace,
      reaches_iff, hPieces, canWalk_append]
    refine ⟨?_, ⟨hExtends.canWalk hCan, ?_⟩, hFind⟩
    · cases hRefusal : p.refusal? with
      | none => rfl
      | some e =>
          unfold createDirectory at hCreate
          rw [tree.locate_of_refusal hRefusal] at hCreate
          cases hCreate
    · exact (canWalk_name_iff hName).mpr ⟨hShort, hFind⟩

theorem Creates.extends
    {next : FileTree}
    (hCreates : tree.Creates p next) :
    tree.Extends next := by
  rw [hCreates.next_eq]
  exact extends_put _ hCreates.fresh

end FileTree

end LatencySweep
