import LatencySweep.Host.FileTree
import LatencySweep.Proofs.Path.Steps

/-
  Walks through a tree.

  Where pieces lead is told by the pieces alone. The tree
  decides whether one gets there: every name on the way has
  to be that of a directory and short enough.

  Main declarations:
    * `FileTree.walk`
    * `FileTree.visited`
    * `FileTree.CanWalk`
    * `FileTree.enterAll_eq_ok_iff`
    * `FileTree.canWalk_stepNames`
-/

namespace LatencySweep

namespace FileTree

------------------------------------------------------------
-- Walks
------------------------------------------------------------

/- The piece is no name. -/
def isNameless (piece : String) : Bool :=
  piece = "" || piece = "." || piece = ".."

/- The place that one piece leads to. -/
def step (place : Location) (piece : String) : Location :=
  if piece = "" ∨ piece = "." then place
  else if piece = ".." then place.dropLast
  else place ++ [piece]

/- The place that pieces lead to. -/
def walk (place : Location) (pieces : List String) :
    Location :=
  pieces.foldl step place

/- The places on the way that are reached by a name. -/
def visited : Location → List String → List Location
  | _, [] => []
  | place, piece :: rest =>
      (if isNameless piece then [] else [place ++ [piece]]) ++
        visited (step place piece) rest

theorem step_of_name
    {place : Location}
    {piece : String}
    (hName : isNameless piece = false) :
    step place piece = place ++ [piece] := by
  simp only [isNameless, Bool.or_eq_false_iff,
    decide_eq_false_iff_not] at hName
  simp [step, hName]

theorem walk_append
    (place : Location)
    (front back : List String) :
    walk place (front ++ back) =
      walk (walk place front) back :=
  List.foldl_append

theorem visited_append
    (place : Location)
    (front back : List String) :
    visited place (front ++ back) =
      visited place front ++
        visited (walk place front) back := by
  induction front generalizing place with
  | nil => rfl
  | cons piece front ih =>
      rw [List.cons_append, visited, visited, ih,
        List.append_assoc]
      rfl

/- One may enter all directories on the way. -/
structure CanWalk
    (tree : FileTree)
    (place : Location)
    (pieces : List String) : Prop where
  short :
    ∀ piece ∈ pieces, piece.utf8ByteSize ≤ maxName
  directories :
    ∀ stop ∈ visited place pieces,
      tree.find? stop = some .directory

variable {tree : FileTree}

theorem canWalk_nil (place : Location) :
    tree.CanWalk place [] :=
  { short := nofun, directories := nofun }

/- One may go far if one may make the first step and go on
   from there. -/
theorem canWalk_append
    {place : Location}
    {front back : List String} :
    tree.CanWalk place (front ++ back) ↔
      tree.CanWalk place front ∧
        tree.CanWalk (walk place front) back := by
  constructor
  · rintro ⟨hShort, hDirectories⟩
    rw [visited_append] at hDirectories
    rw [List.forall_mem_append] at hShort hDirectories
    exact
      ⟨⟨hShort.1, hDirectories.1⟩,
        ⟨hShort.2, hDirectories.2⟩⟩
  · rintro ⟨⟨hShort, hDirectories⟩, ⟨hShort', hDirectories'⟩⟩
    refine { short := ?_, directories := ?_ }
    · exact List.forall_mem_append.mpr ⟨hShort, hShort'⟩
    · rw [visited_append]
      exact
        List.forall_mem_append.mpr
          ⟨hDirectories, hDirectories'⟩

/- A piece that is no name can always be followed. -/
theorem canWalk_nameless
    {place : Location}
    {piece : String}
    (hPiece : isNameless piece = true) :
    tree.CanWalk place [piece] := by
  refine { short := ?_, directories := ?_ }
  · intro other hOther
    rw [List.mem_singleton.mp hOther]
    simp only [isNameless, Bool.or_eq_true,
      decide_eq_true_eq] at hPiece
    rcases hPiece with (rfl | rfl) | rfl <;> decide
  · simp [visited, hPiece]

/- A name can be followed to a directory. -/
theorem canWalk_name_iff
    {place : Location}
    {piece : String}
    (hName : isNameless piece = false) :
    tree.CanWalk place [piece] ↔
      piece.utf8ByteSize ≤ maxName ∧
        tree.find? (place ++ [piece]) = some .directory := by
  constructor
  · rintro ⟨hShort, hDirectories⟩
    refine ⟨hShort piece List.mem_cons_self, ?_⟩
    apply hDirectories
    simp [visited, hName]
  · rintro ⟨hShort, hDirectory⟩
    refine { short := ?_, directories := ?_ }
    · simpa using hShort
    · simpa [visited, hName] using hDirectory

------------------------------------------------------------
-- Entering Directories
------------------------------------------------------------

/- One step into a directory. -/
theorem enter_eq_ok_iff
    {place next : Location}
    {piece : String} :
    tree.enter place piece = .ok next ↔
      next = step place piece ∧
        tree.CanWalk place [piece] := by
  cases hName : isNameless piece with
  | true =>
      have hCan : tree.CanWalk place [piece] :=
        canWalk_nameless hName
      have hEnter :
          tree.enter place piece =
            .ok (step place piece) := by
        simp only [isNameless, Bool.or_eq_true,
          decide_eq_true_eq] at hName
        rcases hName with (rfl | rfl) | rfl <;> rfl
      rw [hEnter, Except.ok.injEq]
      exact ⟨fun hSame => ⟨hSame.symm, hCan⟩,
        fun hNext => hNext.1.symm⟩
  | false =>
      rw [step_of_name hName, canWalk_name_iff hName]
      simp only [isNameless, Bool.or_eq_false_iff,
        decide_eq_false_iff_not] at hName
      unfold enter
      rw [if_neg (by simp [hName]), if_neg hName.2]
      by_cases hLong : maxName < piece.utf8ByteSize
      · simp [hLong, Nat.not_le.mpr hLong]
      · rw [if_neg hLong]
        have hShort := Nat.not_lt.mp hLong
        cases hFind : tree.find? (place ++ [piece]) with
        | none => simp
        | some entry =>
            cases entry with
            | directory => simp [hShort, eq_comm]
            | file content => simp

/- Steps into one directory after the other. -/
theorem enterAll_eq_ok_iff
    {place next : Location}
    {pieces : List String} :
    tree.enterAll place pieces = .ok next ↔
      next = walk place pieces ∧
        tree.CanWalk place pieces := by
  induction pieces generalizing place with
  | nil =>
      simp [enterAll, walk, canWalk_nil, eq_comm]
  | cons piece rest ih =>
      have hSplit :
          tree.CanWalk place (piece :: rest) ↔
            tree.CanWalk place [piece] ∧
              tree.CanWalk (step place piece) rest :=
        @canWalk_append tree place [piece] rest
      rw [hSplit, enterAll]
      cases hEnter : tree.enter place piece with
      | error e =>
          have hCannot : ¬ tree.CanWalk place [piece] := by
            intro hCan
            have hOk :=
              enter_eq_ok_iff.mpr ⟨rfl, hCan⟩
            rw [hEnter] at hOk
            cases hOk
          simp [hCannot]
      | ok middle =>
          rcases enter_eq_ok_iff.mp hEnter with ⟨rfl, hCan⟩
          rw [ih]
          simp [hCan, walk]

------------------------------------------------------------
-- Idle Pieces
------------------------------------------------------------

/- The names of the steps among pieces. -/
def stepNames (pieces : List (List Char)) : List String :=
  (pieces.filter (!Path.isIdle ·)).map String.ofList

/- Pieces that are empty are no steps. -/
theorem stepNames_filter (pieces : List (List Char)) :
    stepNames (pieces.filter (· ≠ [])) =
      stepNames pieces := by
  unfold stepNames
  rw [List.filter_filter]
  congr 1
  apply List.filter_congr
  intro piece _
  cases piece <;> simp [Path.isIdle]

/- An idle piece leads nowhere. -/
theorem step_of_isIdle
    {piece : List Char}
    (place : Location)
    (hIdle : Path.isIdle piece = true) :
    step place (String.ofList piece) = place ∧
      isNameless (String.ofList piece) = true := by
  simp only [Path.isIdle, Bool.or_eq_true,
    decide_eq_true_eq] at hIdle
  rcases hIdle with rfl | rfl
  · exact ⟨rfl, rfl⟩
  · exact ⟨rfl, rfl⟩

theorem stepNames_cons_of_isIdle
    {piece : List Char}
    (pieces : List (List Char))
    (hIdle : Path.isIdle piece = true) :
    stepNames (piece :: pieces) = stepNames pieces := by
  simp [stepNames, hIdle]

theorem stepNames_cons_of_step
    {piece : List Char}
    (pieces : List (List Char))
    (hStep : Path.isIdle piece = false) :
    stepNames (piece :: pieces) =
      String.ofList piece :: stepNames pieces := by
  simp [stepNames, hStep]

/- Steps lead where all pieces lead. -/
theorem walk_stepNames
    (place : Location)
    (pieces : List (List Char)) :
    walk place (stepNames pieces) =
      walk place (pieces.map String.ofList) := by
  induction pieces generalizing place with
  | nil => rfl
  | cons piece pieces ih =>
      cases hIdle : Path.isIdle piece with
      | true =>
          rw [stepNames_cons_of_isIdle pieces hIdle, ih,
            List.map_cons, walk, walk, List.foldl_cons,
            (step_of_isIdle place hIdle).1]
      | false =>
          rw [stepNames_cons_of_step pieces hIdle]
          exact ih _

/- They lead through the same places. -/
theorem visited_stepNames
    (place : Location)
    (pieces : List (List Char)) :
    visited place (stepNames pieces) =
      visited place (pieces.map String.ofList) := by
  induction pieces generalizing place with
  | nil => rfl
  | cons piece pieces ih =>
      cases hIdle : Path.isIdle piece with
      | true =>
          rcases step_of_isIdle place hIdle with
            ⟨hStay, hNameless⟩
          rw [stepNames_cons_of_isIdle pieces hIdle, ih,
            List.map_cons, visited, hStay, if_pos hNameless,
            List.nil_append]
      | false =>
          rw [stepNames_cons_of_step pieces hIdle, visited,
            ih, List.map_cons, visited]

/- One may follow the steps if one may follow all pieces. -/
theorem canWalk_stepNames
    {place : Location}
    {pieces : List (List Char)} :
    tree.CanWalk place (stepNames pieces) ↔
      tree.CanWalk place (pieces.map String.ofList) := by
  induction pieces generalizing place with
  | nil => rfl
  | cons piece pieces ih =>
      have hSplit (rest : List String) :
          tree.CanWalk place
              (String.ofList piece :: rest) ↔
            tree.CanWalk place [String.ofList piece] ∧
              tree.CanWalk
                (step place (String.ofList piece)) rest :=
        @canWalk_append tree place
          [String.ofList piece] rest
      cases hIdle : Path.isIdle piece with
      | true =>
          rcases step_of_isIdle place hIdle with
            ⟨hStay, hNameless⟩
          rw [stepNames_cons_of_isIdle pieces hIdle,
            List.map_cons, hSplit, hStay, ih]
          simp [canWalk_nameless hNameless]
      | false =>
          rw [stepNames_cons_of_step pieces hIdle,
            List.map_cons, hSplit (stepNames pieces),
            hSplit (pieces.map String.ofList), ih]

end FileTree

end LatencySweep
