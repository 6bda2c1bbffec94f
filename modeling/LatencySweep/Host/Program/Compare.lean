import LatencySweep.Host.Program.Lines

/-
  Programs that compare files.

  The difference of two files is a shortest list of lines
  that are removed and added. It is shown in hunks, with the
  numbers of the lines.

  Key definitions include:
    * `Program.compareFiles`
    * `Program.commonLines`
    * `Program.editsOf`
    * `Program.difference`
    * `Program.comparisons`
-/

namespace LatencySweep

namespace Program

------------------------------------------------------------
-- Comparing
------------------------------------------------------------

/- Two files cannot be compared. -/
def cannotCompare (call : Call) (file : String) (e : OsError) :
    StateM Machine Ending := do
  call.complain (Call.plainProblem file e)
  return .exited 2

/- The number of characters that two texts share at their
   fronts. -/
def commonFront : List Char → List Char → Nat
  | a :: as, b :: bs =>
      if a = b then commonFront as bs + 1 else 0
  | _, _ => 0

/- Tell where two files differ first. -/
def compareFiles : Program :=
  (OptionTable.ofLetters "slb" "n").program 2 fun call r => do
    let (a, b) := (r.operands.headD "-",
      (r.operands[1]?).getD "-")
    match ← call.readFile a, ← call.readFile b with
    | .error e, _ => cannotCompare call a e
    | _, .error e => cannotCompare call b e
    | .ok x, .ok y =>
        if x = y then return .exited 0
        let same := commonFront x.toList y.toList
        let front := x.toList.take same
        let line := front.count '\n' + 1
        let place : String :=
          if front = [] then "which is empty"
          else if front.getLast? = some '\n' then
            s!"after byte {same}, line {line - 1}"
          else s!"after byte {same}, in line {line}"
        if !r.has 's' then
          if same = x.length then
            call.complain s!"EOF on {a} {place}"
          else if same = y.length then
            call.complain s!"EOF on {b} {place}"
          else
            call.printLine
              s!"{a} {b} differ: char {same + 1}, line {line}"
        return .exited 1

/- Lines in three columns: only in the first list, only in
   the second one, in both. -/
def mergeColumns : Nat → List String → List String →
    List (Nat × String)
  | 0, _, _ => []
  | _ + 1, [], bs => bs.map fun b => (2, b)
  | _ + 1, as, [] => as.map fun a => (1, a)
  | n + 1, a :: as, b :: bs =>
      if a = b then (3, a) :: mergeColumns n as bs
      else if a < b then (1, a) :: mergeColumns n as (b :: bs)
      else (2, b) :: mergeColumns n (a :: as) bs

/- Print which lines two sorted files have in common. -/
def commonLines : Program :=
  (OptionTable.ofLetters "123z" "").program 1 fun call r => do
    let (a, b) := (r.operands.headD "-",
      (r.operands[1]?).getD "-")
    match ← call.readFile a, ← call.readFile b with
    | .error e, _ =>
        call.complain (Call.plainProblem a e)
        return .exited 1
    | _, .error e =>
        call.complain (Call.plainProblem b e)
        return .exited 1
    | .ok x, .ok y =>
        let (xs, ys) := (linesOfRaw x, linesOfRaw y)
        let shows (column : Nat) : Bool :=
          !r.has (Char.ofNat ('0'.toNat + column))
        let rows :=
          mergeColumns (xs.length + ys.length + 1) xs ys
        rows.forM fun row => do
          if shows row.1 then
            let before :=
              ((List.range (row.1 - 1)).filter fun c =>
                shows (c + 1)).length
            call.printLine
              (String.ofList (List.replicate before '\t') ++
                row.2)
        return .exited 0

/- A line that is kept, removed or added. -/
inductive Edit where
  | keep
  | remove (line : List Char)
  | add (line : List Char)
  deriving DecidableEq

/- Edits, and how many lines they keep. -/
structure Edits where
  kept : Nat
  steps : List Edit

/- One more edit in front. -/
def Edits.cons (edit : Edit) (edits : Edits) : Edits where
  kept := if edit = .keep then edits.kept + 1 else edits.kept
  steps := edit :: edits.steps

/- The best edits from a line and what follows it to each
   end of a list, given those from what follows the line. -/
def editRow (a : List Char) :
    List (List Char) → List Edits → List Edits
  | b :: bs, here :: below =>
      let rest := editRow a bs below
      let added := rest.headD here
      let best :=
        if a = b then (below.headD here).cons .keep
        else if added.kept ≤ here.kept then
          here.cons (.remove a)
        else added.cons (.add b)
      best :: rest
  | _, below => below.map (·.cons (.remove a))

/- The edits that add each end of a list. -/
def additions : List (List Char) → List Edits
  | [] => [⟨0, []⟩]
  | b :: bs =>
      let rest := additions bs
      (rest.headD ⟨0, []⟩).cons (.add b) :: rest

/- The best edits from each end of one list to another
   list. -/
def editsOf (xs ys : List (List Char)) : List Edit :=
  ((xs.foldr (fun x row => editRow x ys row)
    (additions ys)).headD ⟨0, []⟩).steps

/- A range of lines as it is shown. -/
def rangeText (first count : Nat) : String :=
  if count = 0 then toString (first - 1)
  else if count = 1 then toString first
  else s!"{first},{first + count - 1}"

/- A line behind a mark. -/
def markedLine (mark : String) (line : List Char) : String :=
  if line.getLast? = some '\n' then
    mark ++ String.ofList line
  else
    mark ++ String.ofList line ++
      "\n\\ No newline at end of file\n"

/- A change of lines as it is shown. The numbers are those
   of the first lines. -/
def hunkText
    (x y : Nat)
    (removed added : List (List Char)) : String :=
  let letter :=
    if removed = [] then "a"
    else if added = [] then "d" else "c"
  String.join
    ([rangeText x removed.length, letter,
        rangeText y added.length, "\n"] ++
      removed.map (markedLine "< ") ++
      (if letter = "c" then ["---\n"] else []) ++
      added.map (markedLine "> "))

/- The changes among edits. The numbers are those of the
   first lines that were not yet shown. -/
def hunks : List Edit → Nat → Nat → List (List Char) →
    List (List Char) → List String
  | [], x, y, removed, added =>
      if removed = [] ∧ added = [] then []
      else [hunkText x y removed added]
  | .remove line :: rest, x, y, removed, added =>
      hunks rest x y (removed ++ [line]) added
  | .add line :: rest, x, y, removed, added =>
      hunks rest x y removed (added ++ [line])
  | .keep :: rest, x, y, removed, added =>
      let others := hunks rest (x + removed.length + 1)
        (y + added.length + 1) [] []
      if removed = [] ∧ added = [] then others
      else hunkText x y removed added :: others

/- Print how two files differ. -/
def difference : Program :=
  ((OptionTable.ofLetters "qs" "").withNames
    [('q', "brief")]).program 2 fun call r => do
    let (a, b) := (r.operands.headD "-",
      (r.operands[1]?).getD "-")
    match ← call.readFile a, ← call.readFile b with
    | .error e, _ => cannotCompare call a e
    | _, .error e => cannotCompare call b e
    | .ok x, .ok y =>
        if x = y then return .exited 0
        if r.has 'q' then
          call.printLine s!"Files {a} and {b} differ"
        else
          (hunks
            (editsOf (linesWithEnds x.toList)
              (linesWithEnds y.toList)) 1 1 [] []).forM
            call.print
        return .exited 1

/- The programs that compare files. -/
def comparisons : Table :=
  [ ("cmp", compareFiles),
    ("comm", commonLines),
    ("diff", difference) ]

end Program

end LatencySweep
