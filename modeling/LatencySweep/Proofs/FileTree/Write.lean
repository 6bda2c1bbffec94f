import LatencySweep.Proofs.FileTree.Locate

/-
  Writing files.

  A write puts a file at the place of its path, where no
  directory stands, and changes nothing else. So one may
  walk through the same directories as before, and what was
  written is read back under the same path.

  Main declarations:
    * `FileTree.KeepsDirectories`
    * `FileTree.KeepsDirectories.locate`
    * `FileTree.location_eq_place`
    * `FileTree.read_eq_ok_iff`
    * `FileTree.KeepsDirectories.read`
    * `FileTree.Writes`
    * `FileTree.writes_of_write`
    * `FileTree.write_again`
    * `FileTree.WritesAll`
    * `FileTree.WritesAll.read`
-/

namespace LatencySweep

namespace FileTree

variable {tree next : FileTree} {p : Path}

------------------------------------------------------------
-- Directories That Stay
------------------------------------------------------------

/- One is still in the same directory, and no directory is
   removed, though files may come and go. -/
structure KeepsDirectories (tree next : FileTree) : Prop where
  workDir : next.workDir = tree.workDir
  directories :
    ∀ place,
      tree.find? place = some .directory →
        next.find? place = some .directory

theorem keepsDirectories_refl (tree : FileTree) :
    tree.KeepsDirectories tree :=
  { workDir := rfl, directories := fun _ hFind => hFind }

theorem KeepsDirectories.trans
    {first second third : FileTree}
    (hFirst : first.KeepsDirectories second)
    (hSecond : second.KeepsDirectories third) :
    first.KeepsDirectories third :=
  { workDir := hSecond.workDir.trans hFirst.workDir
    directories := fun place hFind =>
      hSecond.directories place
        (hFirst.directories place hFind) }

theorem Extends.keepsDirectories
    (hExtends : tree.Extends next) :
    tree.KeepsDirectories next :=
  { workDir := hExtends.workDir
    directories := fun place =>
      hExtends.keeps place .directory }

theorem KeepsDirectories.canWalk
    {place : Location}
    {pieces : List String}
    (hKeeps : tree.KeepsDirectories next)
    (hCan : tree.CanWalk place pieces) :
    next.CanWalk place pieces :=
  { short := hCan.short
    directories := fun stop hStop =>
      hKeeps.directories stop
        (hCan.directories stop hStop) }

theorem KeepsDirectories.isDirectory
    (hKeeps : tree.KeepsDirectories next)
    (hDirectory : tree.isDirectory p = true) :
    next.isDirectory p = true := by
  rw [isDirectory_iff] at hDirectory ⊢
  rcases hDirectory with ⟨hRefusal, hReaches, hFind⟩
  unfold Reaches
  rw [hKeeps.workDir]
  exact
    ⟨hRefusal, hKeeps.canWalk hReaches,
      hKeeps.directories _ hFind⟩

------------------------------------------------------------
-- Places of Paths
------------------------------------------------------------

theorem KeepsDirectories.enterAll
    {start place : Location}
    {pieces : List String}
    (hKeeps : tree.KeepsDirectories next)
    (hEnter : tree.enterAll start pieces = .ok place) :
    next.enterAll start pieces = .ok place := by
  rw [enterAll_eq_ok_iff] at hEnter ⊢
  exact ⟨hEnter.1, hKeeps.canWalk hEnter.2⟩

/- The last piece is not looked up. -/
theorem targetOf_eq
    (tree next : FileTree)
    (place : Location)
    (last : String)
    (closed : Bool) :
    next.targetOf place last closed =
      tree.targetOf place last closed := by
  unfold targetOf
  by_cases hUp : last = "." ∨ last = ".."
  · rcases hUp with rfl | rfl
    · rfl
    · rfl
  · rw [if_neg hUp, if_neg hUp]

/- A path still leads to the same target. -/
theorem KeepsDirectories.locate
    {target : Target}
    (hKeeps : tree.KeepsDirectories next)
    (hLocate : tree.locate p = .ok target) :
    next.locate p = .ok target := by
  cases hRefusal : p.refusal? with
  | some e =>
      rw [tree.locate_of_refusal hRefusal] at hLocate
      cases hLocate
  | none =>
      rw [locate_of_pieces _ hRefusal] at hLocate ⊢
      rw [hKeeps.workDir]
      cases hLast : p.pieceNames.getLast? with
      | none =>
          rw [hLast] at hLocate
          exact hLocate
      | some last =>
          rw [hLast] at hLocate
          dsimp only at hLocate ⊢
          cases hEnter : tree.enterAll
              (p.origin tree.workDir) p.pieceNames.dropLast with
          | error e =>
              rw [hEnter] at hLocate
              cases hLocate
          | ok place =>
              rw [hEnter] at hLocate
              rw [hKeeps.enterAll hEnter]
              exact
                (targetOf_eq tree next place last _).trans
                  hLocate

/- What a path leads to stands at its place. -/
theorem location_eq_place
    {target : Target}
    (hLocate : tree.locate p = .ok target) :
    target.location = p.place tree.workDir := by
  rw [Path.place, ← Path.walk_pieceNames]
  cases hRefusal : p.refusal? with
  | some e =>
      rw [tree.locate_of_refusal hRefusal] at hLocate
      cases hLocate
  | none =>
      rcases List.eq_nil_or_concat p.pieceNames with
        hNil | ⟨front, last, hPieces⟩
      · rw [locate_of_pieces tree hRefusal, hNil] at hLocate
        cases hLocate
        rw [hNil]
        rfl
      · rw [List.concat_eq_append] at hPieces
        have hLast : last ≠ "" := by
          apply Path.ne_empty_of_mem_pieceNames
          rw [hPieces]
          exact List.mem_append_right _ List.mem_cons_self
        rw [locate_of_append tree hRefusal hPieces] at hLocate
        rw [hPieces, walk_append]
        cases hFront :
            tree.enterAll (p.origin tree.workDir) front with
        | error e =>
            rw [hFront] at hLocate
            cases hLocate
        | ok place =>
            rw [hFront] at hLocate
            dsimp only at hLocate
            rcases enterAll_eq_ok_iff.mp hFront with ⟨rfl, -⟩
            cases hName : isNameless last with
            | true =>
                rw [targetOf_nameless _ hLast hName]
                  at hLocate
                cases hLocate
                rfl
            | false =>
                rw [targetOf_name _ hName] at hLocate
                split at hLocate
                next => cases hLocate
                next =>
                  cases hLocate
                  exact (step_of_name hName).symm

------------------------------------------------------------
-- Reads
------------------------------------------------------------

/- A file is read where it is found and nothing behind its
   name makes it a directory. -/
theorem read_eq_ok_iff
    {content : Bytes} :
    tree.read p = .ok content ↔
      ∃ target,
        tree.locate p = .ok target ∧
          target.closed = false ∧
            tree.find? (p.place tree.workDir) =
              some (.file content) := by
  unfold read
  cases hLocate : tree.locate p with
  | error e => simp
  | ok target =>
      dsimp only
      rw [← location_eq_place hLocate]
      cases hFind : tree.find? target.location with
      | none => simp
      | some entry =>
          cases entry with
          | directory => simp
          | file found =>
              cases hClosed : target.closed with
              | true => simp [hClosed]
              | false => simp [hClosed]

/- A file reads the same while directories stay and nothing
   happens to it. -/
theorem KeepsDirectories.read
    {content : Bytes}
    (hKeeps : tree.KeepsDirectories next)
    (hSame :
      next.find? (p.place tree.workDir) =
        tree.find? (p.place tree.workDir))
    (hRead : tree.read p = .ok content) :
    next.read p = .ok content := by
  rcases read_eq_ok_iff.mp hRead with
    ⟨target, hLocate, hClosed, hFile⟩
  apply read_eq_ok_iff.mpr
  rw [hKeeps.workDir, hSame]
  exact ⟨target, hKeeps.locate hLocate, hClosed, hFile⟩

------------------------------------------------------------
-- Writes
------------------------------------------------------------

/- The file is put at the place of its path, where it is
   read again. -/
structure Writes
    (tree : FileTree)
    (p : Path)
    (content : Bytes)
    (next : FileTree) : Prop where
  next_eq :
    next = tree.put (p.place tree.workDir) (.file content)
  free : tree.find? (p.place tree.workDir) ≠ some .directory
  read : next.read p = .ok content

/- A file does not replace a directory. -/
theorem keepsDirectories_put
    {place : Location}
    (content : Bytes)
    (hFree : tree.find? place ≠ some .directory) :
    tree.KeepsDirectories (tree.put place (.file content)) := by
  refine { workDir := rfl, directories := ?_ }
  intro other hFind
  rw [find?_put_of_ne]
  · exact hFind
  · rintro rfl
    exact hFree hFind

theorem Writes.keepsDirectories
    {content : Bytes}
    (hWrites : tree.Writes p content next) :
    tree.KeepsDirectories next := by
  rw [hWrites.next_eq]
  exact keepsDirectories_put content hWrites.free

theorem Writes.find?_of_ne
    {content : Bytes}
    {place : Location}
    (hWrites : tree.Writes p content next)
    (hOther : place ≠ p.place tree.workDir) :
    next.find? place = tree.find? place := by
  rw [hWrites.next_eq]
  exact find?_put_of_ne _ _ hOther

/- The root is a directory. -/
theorem ne_root_of_free
    {place : Location}
    (hFree : tree.find? place ≠ some .directory) :
    place ≠ [] := by
  rintro rfl
  exact hFree rfl

/- A file is opened at the place of its path, where no
   directory stands. -/
theorem openForWriting_eq_ok
    {place : Location}
    {old : Bytes}
    (hOpen : tree.openForWriting p = .ok (place, old)) :
    place = p.place tree.workDir ∧
      tree.find? (p.place tree.workDir) ≠ some .directory ∧
        ∃ target,
          tree.locate p = .ok target ∧
            target.closed = false := by
  unfold openForWriting at hOpen
  cases hLocate : tree.locate p with
  | error e =>
      rw [hLocate] at hOpen
      cases hOpen
  | ok target =>
      rw [hLocate] at hOpen
      dsimp only at hOpen
      rw [← location_eq_place hLocate]
      split at hOpen
      next => cases hOpen
      next hFile =>
        rw [Bool.or_eq_true, not_or, Bool.not_eq_true,
          Bool.not_eq_true] at hFile
        split at hOpen
        next => cases hOpen
        next hFind =>
          cases hOpen
          refine ⟨rfl, ?_, target, rfl, hFile.2⟩
          rw [hFind]
          exact fun hSame => by cases hSame
        next hFind =>
          cases hOpen
          refine ⟨rfl, ?_, target, rfl, hFile.2⟩
          rw [hFind]
          exact fun hSame => by cases hSame

/- A write that succeeds puts the file in place. -/
theorem writes_of_write
    {content : Bytes}
    (hWrite : tree.write p content = .ok next) :
    tree.Writes p content next := by
  unfold write at hWrite
  split at hWrite
  next => cases hWrite
  next place old hOpen =>
    rcases openForWriting_eq_ok hOpen with
      ⟨rfl, hFree, target, hLocate, hClosed⟩
    cases hWrite
    have hKeeps := keepsDirectories_put content hFree
    refine
      { next_eq := rfl
        free := hFree
        read := read_eq_ok_iff.mpr ?_ }
    exact
      ⟨target, hKeeps.locate hLocate, hClosed,
        find?_put_self _ _ (ne_root_of_free hFree)⟩

------------------------------------------------------------
-- Files That Are Written Again
------------------------------------------------------------

/- Where directories stay, a file can be opened again. -/
theorem KeepsDirectories.openForWriting
    {place : Location}
    {old content : Bytes}
    (hKeeps : tree.KeepsDirectories next)
    (hOpen : tree.openForWriting p = .ok (place, old))
    (hFile : next.find? place = some (.file content)) :
    next.openForWriting p = .ok (place, content) := by
  unfold FileTree.openForWriting at hOpen ⊢
  cases hLocate : tree.locate p with
  | error e =>
      rw [hLocate] at hOpen
      cases hOpen
  | ok target =>
      rw [hLocate] at hOpen
      rw [hKeeps.locate hLocate]
      dsimp only at hOpen ⊢
      split at hOpen
      next => cases hOpen
      next hName =>
        have hPlace : target.location = place := by
          split at hOpen
          next => cases hOpen
          next =>
            cases hOpen
            rfl
          next =>
            cases hOpen
            rfl
        rw [if_neg hName, hPlace, hFile]

/- Whether a file can be written does not depend on what is
   written. -/
theorem write_error
    {cause : OsError}
    {content : Bytes}
    (hWrite : tree.write p content = .error cause)
    (other : Bytes) :
    tree.write p other = .error cause := by
  unfold write at hWrite ⊢
  cases hOpen : tree.openForWriting p with
  | error e =>
      rw [hOpen] at hWrite
      exact hWrite
  | ok opened =>
      rw [hOpen] at hWrite
      cases hWrite

/- A file that was written can be written again. -/
theorem write_again
    {content : Bytes}
    (hWrite : tree.write p content = .ok next)
    (other : Bytes) :
    ∃ final, next.write p other = .ok final := by
  have hWrites := writes_of_write hWrite
  unfold write at hWrite
  cases hOpen : tree.openForWriting p with
  | error e =>
      rw [hOpen] at hWrite
      cases hWrite
  | ok opened =>
      rcases opened with ⟨place, old⟩
      have hPlace := (openForWriting_eq_ok hOpen).1
      have hFile :
          next.find? place = some (.file content) := by
        rw [hWrites.next_eq, hPlace]
        exact find?_put_self _ _ (ne_root_of_free hWrites.free)
      have hAgain :=
        hWrites.keepsDirectories.openForWriting hOpen hFile
      unfold write
      rw [hAgain]
      exact ⟨_, rfl⟩

------------------------------------------------------------
-- Writes One after the Other
------------------------------------------------------------

/- Files are put at the places of their paths in turn. -/
inductive WritesAll :
    FileTree → List (Path × Bytes) → FileTree → Prop where
  | nil (tree : FileTree) : WritesAll tree [] tree
  | cons
      {tree next final : FileTree}
      {file : Path × Bytes}
      {files : List (Path × Bytes)}
      (hFirst : tree.Writes file.1 file.2 next)
      (hRest : WritesAll next files final) :
      WritesAll tree (file :: files) final

namespace WritesAll

variable {final : FileTree} {files : List (Path × Bytes)}

theorem keepsDirectories
    (hAll : tree.WritesAll files final) :
    tree.KeepsDirectories final := by
  induction hAll with
  | nil tree => exact keepsDirectories_refl tree
  | cons hFirst hRest ih =>
      exact hFirst.keepsDirectories.trans ih

theorem append
    {middle : FileTree}
    {others : List (Path × Bytes)}
    (hFirst : tree.WritesAll files middle)
    (hSecond : middle.WritesAll others final) :
    tree.WritesAll (files ++ others) final := by
  induction hFirst with
  | nil tree => exact hSecond
  | cons hWrites hRest ih =>
      exact WritesAll.cons hWrites (ih hSecond)

theorem executables
    (hAll : tree.WritesAll files final) :
    final.executables = tree.executables := by
  induction hAll with
  | nil tree => rfl
  | cons hFirst hRest ih =>
      rw [ih, hFirst.next_eq]
      rfl

/- Nothing happens at other places. -/
theorem find?_of_ne
    {place : Location}
    (hAll : tree.WritesAll files final)
    (hOther :
      ∀ file ∈ files, place ≠ file.1.place tree.workDir) :
    final.find? place = tree.find? place := by
  induction hAll with
  | nil tree => rfl
  | cons hFirst hRest ih =>
      rw [hFirst.keepsDirectories.workDir] at ih
      rw [ih fun file hFile =>
        hOther file (List.mem_cons_of_mem _ hFile)]
      exact
        hFirst.find?_of_ne (hOther _ List.mem_cons_self)

/- Each file is read in the end if all places are
   different. -/
theorem read
    (hAll : tree.WritesAll files final)
    (hPlaces :
      (files.map fun file =>
        file.1.place tree.workDir).Nodup) :
    ∀ file ∈ files, final.read file.1 = .ok file.2 := by
  induction hAll with
  | nil tree => exact fun file hFile => by cases hFile
  | cons hFirst hRest ih =>
      rw [List.map_cons, List.nodup_cons] at hPlaces
      rcases hPlaces with ⟨hNew, hOthers⟩
      have hWorkDir := hFirst.keepsDirectories.workDir
      intro file hFile
      rcases List.mem_cons.mp hFile with rfl | hLater
      · apply hRest.keepsDirectories.read _ hFirst.read
        apply hRest.find?_of_ne
        rw [hWorkDir]
        intro other hOther hSame
        exact
          hNew (List.mem_map.mpr ⟨other, hOther, hSame.symm⟩)
      · rw [hWorkDir] at ih
        exact ih hOthers file hLater

end WritesAll

end FileTree

end LatencySweep
