import LatencySweep.Host.Program.Lines
import LatencySweep.Host.Program.Regex.Reader

/-
  The program that searches files for patterns.

  A line is selected when one of the patterns matches a part
  of it. Selected lines are shown, with others around them
  if that is wanted, or only counted.

  Key definitions include:
    * `SearchPlan`
    * `SearchPlan.select`
    * `SearchPlan.shown`
    * `Program.search`
-/

namespace LatencySweep

------------------------------------------------------------
-- Plans
------------------------------------------------------------

/- What is shown of a file. -/
inductive SearchView where
  | lines
  | matches
  | count
  | selectedNames
  | otherNames
  | nothing
  deriving DecidableEq

/- How files are searched. -/
structure SearchPlan where
  patterns : List Regex
  ignoresCase : Bool
  inverts : Bool
  view : SearchView
  atMost : Option Nat
  before : Nat
  behind : Nat
  separates : Bool
  showsNumbers : Bool
  showsOffsets : Bool
  showsNames : Bool
  readsBinary : Bool

/- A line with its number and its place in a content. -/
structure SearchLine where
  number : Nat
  offset : Nat
  content : List Char

namespace SearchPlan

/- The better of two matches: the one that starts first, and
   of those the longer one. -/
def better (a b : Regex.Match) : Regex.Match :=
  if b.front.length < a.front.length ∨
      b.front.length = a.front.length ∧
        a.matched.length < b.matched.length then b
  else a

/- The first match of any pattern. -/
def match?
    (plan : SearchPlan)
    (before : Option Char)
    (line : List Char) : Option Regex.Match :=
  (plan.patterns.filterMap fun r =>
    r.findFrom? plan.ignoresCase before [] line).foldl
      (fun best found =>
        match best with
        | none => some found
        | some b => some (better b found))
      none

/- A line is selected. -/
def selects (plan : SearchPlan) (line : List Char) : Bool :=
  (plan.match? none line).isSome != plan.inverts

/- Lines with their numbers and places, from the given ones
   on. -/
def numbered :
    Nat → Nat → List (List Char) → List SearchLine
  | _, _, [] => []
  | number, offset, line :: rest =>
      { number, offset
        content :=
          if line.getLast? = some '\n' then line.dropLast
          else line } ::
        numbered (number + 1) (offset + line.length) rest

/- The lines of a content and whether each is selected. The
   search ends when enough lines were selected. -/
def select
    (plan : SearchPlan) :
    Option Nat → List SearchLine → List (SearchLine × Bool)
  | _, [] => []
  | left, line :: rest =>
      if left = some 0 then
        (line, false) :: select plan left rest
      else if plan.selects line.content then
        (line, true) ::
          select plan (left.map fun n => n - 1) rest
      else (line, false) :: select plan left rest

/- The parts of a line that a pattern matches, with their
   places in it. Empty parts are left out. -/
def parts (plan : SearchPlan) :
    Nat → Nat → Option Char → List Char →
      List (Nat × List Char)
  | 0, _, _, _ => []
  | n + 1, offset, before, line =>
      match plan.match? before line with
      | none => []
      | some found =>
          let start := offset + found.front.length
          match found.matched.getLast?, found.behind with
          | none, [] => []
          | none, c :: rest =>
              parts plan n (start + 1) (some c) rest
          | some last, rest =>
              (start, found.matched) ::
                parts plan n (start + found.matched.length)
                  (some last) rest

------------------------------------------------------------
-- Showing
------------------------------------------------------------

/- What stands in front of a line. -/
def label
    (plan : SearchPlan)
    (name : String)
    (mark : String)
    (line : SearchLine)
    (offset : Nat) : String :=
  (if plan.showsNames then name ++ mark else "") ++
    (if plan.showsNumbers then toString line.number ++ mark
      else "") ++
    (if plan.showsOffsets then toString offset ++ mark else "")

/- A line as it is shown. -/
def shownLine
    (plan : SearchPlan)
    (name mark : String)
    (line : SearchLine) : String :=
  plan.label name mark line line.offset ++
    String.ofList line.content ++ "\n"

/- The matches in a line as they are shown. -/
def shownParts
    (plan : SearchPlan)
    (name : String)
    (line : SearchLine) : String :=
  if plan.inverts then ""
  else
    String.join
      ((plan.parts (line.content.length + 1) 0 none
          line.content).map fun part =>
        plan.label name ":" line (line.offset + part.1) ++
          String.ofList part.2 ++ "\n")

/- The selected lines together with lines around them. The
   first numbers are those of the last shown line and of the
   first line behind the context of a selected one. -/
def shownFrom
    (plan : SearchPlan)
    (name : String) :
    Option Nat → Nat → List SearchLine →
      List (SearchLine × Bool) → String
  | _, _, _, [] => ""
  | last, _, passed, (line, true) :: rest =>
      let front := (passed.take plan.before).reverse
      let first :=
        match front with
        | [] => line.number
        | l :: _ => l.number
      let gap :=
        match last with
        | none => false
        | some n => plan.separates && n + 1 < first
      (if gap then "--\n" else "") ++
        String.join (front.map (plan.shownLine name "-")) ++
        plan.shownLine name ":" line ++
        shownFrom plan name (some line.number)
          (line.number + plan.behind + 1) [] rest
  | last, contextEnd, passed, (line, false) :: rest =>
      if line.number < contextEnd then
        plan.shownLine name "-" line ++
          shownFrom plan name (some line.number) contextEnd []
            rest
      else
        shownFrom plan name last contextEnd (line :: passed)
          rest

/- Content that is no text. -/
def isBinary (content : List Char) : Bool :=
  content.contains '\x00'

/- What is shown of a content. -/
def shown
    (plan : SearchPlan)
    (name : String)
    (content : List Char)
    (lines : List (SearchLine × Bool)) : String :=
  let selected := (lines.filter Prod.snd).map Prod.fst
  let found := selected ≠ []
  let binary := found ∧ isBinary content ∧ !plan.readsBinary
  match plan.view with
  | .nothing => ""
  | .selectedNames => if found then name ++ "\n" else ""
  | .otherNames => if found then "" else name ++ "\n"
  | .count =>
      let front := if plan.showsNames then name ++ ":" else ""
      s!"{front}{selected.length}\n"
  | .matches =>
      if binary then ""
      else String.join (selected.map (plan.shownParts name))
  | .lines =>
      if binary then ""
      else plan.shownFrom name none 0 [] lines

/- The message about a content that is no text. -/
def binaryMessage
    (plan : SearchPlan)
    (program name : String)
    (content : List Char)
    (found : Bool) : String :=
  let showsLines := plan.view = .lines ∨ plan.view = .matches
  if found ∧ showsLines ∧ isBinary content ∧
      !plan.readsBinary then
    s!"{program}: {name}: binary file matches\n"
  else ""

end SearchPlan

------------------------------------------------------------
-- Reading the Plan
------------------------------------------------------------

namespace SearchPlan

/- The options of the program. -/
def options : OptionTable :=
  (OptionTable.ofLetters "cvinlLoqshHEFGwxrRabUIzy"
    "emABCf").withNames
    [ ('c', "count"), ('v', "invert-match"),
      ('i', "ignore-case"), ('n', "line-number"),
      ('l', "files-with-matches"),
      ('L', "files-without-match"), ('o', "only-matching"),
      ('q', "quiet"), ('q', "silent"), ('s', "no-messages"),
      ('h', "no-filename"), ('H', "with-filename"),
      ('E', "extended-regexp"), ('F', "fixed-strings"),
      ('G', "basic-regexp"), ('w', "word-regexp"),
      ('x', "line-regexp"), ('r', "recursive"),
      ('a', "text"), ('b', "byte-offset"), ('e', "regexp"),
      ('m', "max-count"), ('A', "after-context"),
      ('B', "before-context"), ('C', "context"),
      ('f', "file") ]

/- A word of digits behind a dash means as many lines around
   each selected one. -/
def expandDigits (args : List String) : List String :=
  args.flatMap fun word =>
    match word.toList with
    | '-' :: d :: digits =>
        if (d :: digits).all Char.isDigit then
          ["-C", String.ofList (d :: digits)]
        else [word]
    | _ => [word]

/- The last of some options that was given. -/
def lastOf (r : ReadOptions) (letters : List Char) :
    Option Char :=
  (r.options.reverse.find? fun o => o.1 ∈ letters).map
    Prod.fst

/- The view that options ask for. -/
def viewOf (r : ReadOptions) : SearchView :=
  if r.has 'q' then .nothing
  else
    match lastOf r ['l', 'L'] with
    | some 'l' => .selectedNames
    | some _ => .otherNames
    | none =>
        if r.has 'c' then .count
        else if r.has 'o' then .matches
        else .lines

/- A number of lines around selected ones. -/
def contextOf
    (r : ReadOptions)
    (letter : Char) : Except String (Option Nat) :=
  match (r.value? letter).orElse fun _ => r.value? 'C' with
  | none => .ok none
  | some word =>
      let digits := word.toList
      if digits ≠ [] ∧ digits.all Char.isDigit then
        .ok (some (digitsValue digits))
      else .error s!"{word}: invalid context length argument"

/- The greatest number of selected lines. -/
def limitOf (r : ReadOptions) : Except String (Option Nat) :=
  match r.value? 'm' with
  | none => .ok none
  | some word =>
      match Numeral.spanDecimal? word.toList with
      | some (n, []) =>
          .ok (if n < 0 then none else some n.toNat)
      | _ => .error "invalid max count"

/- A pattern in the notation that options ask for. -/
def patternOf (r : ReadOptions) (style : Char) (text : String) :
    Except Regex.Fault Regex := do
  let regex ←
    match lastOf r ['E', 'F', 'G'], style with
    | some 'F', _ | none, 'F' =>
        pure (Regex.readFixed text.toList)
    | some 'E', _ | none, 'E' =>
        Regex.read .extended text.toList
    | _, _ => Regex.read .basic text.toList
  let between (a b : Anchor) : Regex :=
    .seq (.anchor a) (.seq regex (.anchor b))
  return if r.has 'x' then between .start .stop
    else if r.has 'w' then between .noWordBefore .noWordBehind
    else regex

/- The plan that options ask for, patterns aside. -/
def ofOptions (r : ReadOptions) (patterns : List Regex) :
    Except String SearchPlan := do
  let before ← contextOf r 'B'
  let behind ← contextOf r 'A'
  let atMost ← limitOf r
  return {
    patterns
    ignoresCase := r.has 'i' || r.has 'y'
    inverts := r.has 'v'
    view := viewOf r
    atMost
    before := before.getD 0
    behind := behind.getD 0
    separates :=
      before.getD 0 ≠ 0 || behind.getD 0 ≠ 0
    showsNumbers := r.has 'n'
    showsOffsets := r.has 'b'
    showsNames := false
    readsBinary := r.has 'a' || r.has 'U' }

end SearchPlan

------------------------------------------------------------
-- The Program
------------------------------------------------------------

namespace Call

/- The standard output of a program is a given file. -/
def isOutput (call : Call) (file : String) :
    StateM Machine Bool := do
  let m ← get
  let output :=
    (call.descriptors.channel? 1).bind m.channel?
  match m.tree.entryAt (pathOf file), output with
  | .ok (target, .file _), some (.file place _ _) =>
      return decide (target.location = place)
  | _, _ => return false

end Call

namespace Program

/- Tell how the program is called. -/
def searchMisuse (call : Call) : StateM Machine Ending := do
  call.writeTo 2
    s!"Usage: {call.name} [OPTION]... PATTERNS [FILE]...\n"
  call.hint
  return .exited 2

/- Tell about a problem unless this is not wanted. -/
def searchProblem
    (call : Call)
    (silent : Bool)
    (problem : String) : StateM Machine Unit := do
  unless silent do call.complain problem

/- The files to be searched below a directory. -/
def filesBelow (tree : FileTree) (dir : String) :
    List String :=
  match tree.entryAt (Call.pathOf dir) with
  | .ok (target, .directory) =>
      let below := tree.entries.filterMap fun e =>
        match FileTree.relativeTo? target.location e with
        | some (names, .file _) => some names
        | _ => none
      (below.mergeSort FileTree.locationLe).map fun names =>
        dir ++ "/" ++
          rawOfText (String.intercalate "/" names)
  | _ => [dir]

/- Search one file. The result says whether it counts as
   found and whether it could be read. -/
def searchFile
    (call : Call)
    (plan : SearchPlan)
    (silent recursive : Bool)
    (file : String) : StateM Machine (Bool × Bool) := do
  let showsLines := plan.view = .lines ∨ plan.view = .matches
  if showsLines ∧ file ≠ "-" ∧ (← call.isOutput file) then
    searchProblem call silent
      s!"{file}: input file is also the output"
    return (false, false)
  match ← call.readFile file with
  | .error e =>
      if recursive ∧ e = .isDirectory then
        return (false, true)
      searchProblem call silent (Call.plainProblem file e)
      return (false, false)
  | .ok content =>
      let name := if file = "-" then "(standard input)" else file
      let lines := plan.select plan.atMost
        (SearchPlan.numbered 1 0
          (linesWithEnds content.toList))
      let found := lines.any Prod.snd
      call.print (plan.shown name content.toList lines)
      call.print
        (plan.binaryMessage call.name name content.toList found)
      return (found != (plan.view = .otherNames), true)

/- Search files one after the other. With nothing to show,
   the search ends at the first file that counts. -/
def searchFiles
    (call : Call)
    (plan : SearchPlan)
    (silent recursive : Bool) :
    List String → StateM Machine (Bool × Bool)
  | [] => return (false, true)
  | file :: rest => do
      let (found, readable) ←
        searchFile call plan silent recursive file
      if found ∧ plan.view = .nothing then
        return (true, true)
      let (others, allReadable) ←
        searchFiles call plan silent recursive rest
      return (found || others, readable && allReadable)

/- Carry out a plan. -/
def searchWith
    (call : Call)
    (r : ReadOptions)
    (style : Char)
    (texts : List String)
    (operands : List String) : StateM Machine Ending := do
  let stop (problem : String) : StateM Machine Ending := do
    call.complain problem
    return .exited 2
  match texts.mapM (SearchPlan.patternOf r style) with
  | .error fault => stop fault.message
  | .ok patterns =>
      match SearchPlan.ofOptions r patterns with
      | .error problem => stop problem
      | .ok plan =>
          if plan.atMost = some 0 then return .exited 1
          let recursive := r.has 'r' || r.has 'R'
          let tree := (← get).tree
          let files :=
            if recursive then
              if operands = [] then
                (filesBelow tree ".").map fun f =>
                  String.ofList (f.toList.drop 2)
              else operands.flatMap (filesBelow tree)
            else Call.inputsOf operands
          let several :=
            1 < operands.length ||
              recursive && files ≠ operands
          let showsNames :=
            match SearchPlan.lastOf r ['h', 'H'] with
            | some c => decide (c = 'H')
            | none => several
          let (found, readable) ←
            searchFiles call { plan with showsNames }
              (r.has 's') recursive files
          if plan.view = .nothing ∧ found then
            return .exited 0
          return .exited
            (if !readable then 2 else if found then 0 else 1)

/- Search files for patterns in the notation with the given
   letter. -/
def search (style : Char) : Program := fun call => do
  match SearchPlan.options.read
      (SearchPlan.expandDigits call.args) with
  | .error problem => do
      call.complain problem
      searchMisuse call
  | .ok r =>
      let given := r.values 'e'
      let sources := r.values 'f'
      let contents ← sources.mapM fun file => do
        match ← call.readFile file with
        | .ok content => return some (linesOfRaw content)
        | .error e =>
            call.complain (Call.plainProblem file e)
            return none
      if contents.any Option.isNone then return .exited 2
      let linesOf (texts : List String) : List String :=
        texts.flatMap fun text =>
          (text.toList.splitOn '\n').map String.ofList
      if given = [] ∧ sources = [] then
        match r.operands with
        | [] => searchMisuse call
        | text :: files =>
            searchWith call r style (linesOf [text]) files
      else
        searchWith call r style
          (linesOf given ++ (contents.filterMap id).flatten)
          r.operands

/- The programs that search files. -/
def searches : Table :=
  [ ("grep", search 'G'), ("egrep", search 'E'),
    ("fgrep", search 'F') ]

end Program

end LatencySweep
