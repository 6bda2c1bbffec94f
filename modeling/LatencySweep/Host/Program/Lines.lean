import LatencySweep.Host.Program.Output

/-
  Programs that go through the lines of files.

  Without files, or for a dash, the standard input is read.
  A file that cannot be read is told about, and the program
  goes on with the next one.

  Key definitions include:
    * `linesOfRaw`
    * `Call.forInputs`
    * `Program.concatenate`
    * `Program.head`
    * `Program.tail`
    * `Program.wordCount`
    * `Program.unique`
    * `Program.lineFilters`
-/

namespace LatencySweep

------------------------------------------------------------
-- Lines
------------------------------------------------------------

/- The lines of a raw text with their line ends. Only the
   last one may lack a line end. -/
def linesWithEnds (raw : List Char) : List (List Char) :=
  let pieces := raw.splitOn '\n'
  pieces.dropLast.map (· ++ ['\n']) ++
    (match pieces.getLast? with
    | none | some [] => []
    | some last => [last])

/- The lines of a raw text without their line ends. -/
def linesOfRaw (raw : String) : List String :=
  (linesWithEnds raw.toList).map fun line =>
    String.ofList
      (if line.getLast? = some '\n' then line.dropLast
      else line)

/- A text with spaces in front, at least as wide as given. -/
def alignRight (width : Nat) (text : String) : String :=
  String.ofList
    (List.replicate (width - text.length) ' ') ++ text

namespace Call

/- The operands of a program, or the standard input. -/
def inputsOf (operands : List String) : List String :=
  if operands = [] then ["-"] else operands

/- Go through the contents of files. The result says whether
   all could be read. -/
def forInputs
    (call : Call)
    (files : List String)
    (problem : String → OsError → String)
    (act : String → String → StateM Machine Unit) :
    StateM Machine Bool := do
  let done ← files.mapM fun file => do
    match ← call.readFile file with
    | .ok content =>
        act file content
        return true
    | .error e =>
        call.complain (problem file e)
        return false
  return done.all id

/- The usual message about a file. -/
def plainProblem (file : String) (e : OsError) : String :=
  s!"{file}: {e.reason}"

end Call

namespace Program

/- An exit code for work that was done or failed. -/
def codeOf (done : Bool) : Ending :=
  .exited (if done then 0 else 1)

------------------------------------------------------------
-- Whole Files
------------------------------------------------------------

/- How lines are shown when files are put together. -/
structure LineStyle where
  numbersAll : Bool
  numbersFull : Bool
  squeezes : Bool
  marksEnds : Bool
  marksTabs : Bool
  marksControls : Bool

/- A character that cannot be seen, in a form that can. -/
def visibleChar (style : LineStyle) (c : Char) : List Char :=
  let n := c.toNat
  let low (n : Nat) : List Char :=
    if n = 127 then ['^', '?']
    else if n < 32 then ['^', Char.ofNat (n + 64)]
    else [Char.ofNat n]
  if c = '\t' then
    if style.marksTabs then ['^', 'I'] else [c]
  else if !style.marksControls ∨ c = '\n' then [c]
  else if n < 128 then low n
  else ['M', '-'] ++ low (n - 128)

/- A line in a style, with its number if it gets one. -/
def styledLine
    (style : LineStyle)
    (number : Option Nat)
    (line : List Char) : List Char :=
  let front :=
    match number with
    | none => []
    | some n => (alignRight 6 (toString n)).toList ++ ['\t']
  let body := line.flatMap (visibleChar style)
  if style.marksEnds ∧ body.getLast? = some '\n' then
    front ++ body.dropLast ++ ['$', '\n']
  else front ++ body

/- Lines in a style, from a line number on. Of blank lines
   in a row only the first may be kept. -/
def styledLines
    (style : LineStyle) :
    Nat → Bool → List (List Char) → List Char
  | _, _, [] => []
  | n, afterBlank, line :: rest =>
      let isBlankLine := line = ['\n']
      if style.squeezes ∧ isBlankLine ∧ afterBlank then
        styledLines style n true rest
      else if style.numbersAll ∨
          style.numbersFull ∧ !isBlankLine then
        styledLine style (some n) line ++
          styledLines style (n + 1) isBlankLine rest
      else
        styledLine style none line ++
          styledLines style n isBlankLine rest

/- The style that options ask for. -/
def styleOf (r : ReadOptions) : LineStyle where
  numbersAll := r.has 'n' && !r.has 'b'
  numbersFull := r.has 'b'
  squeezes := r.has 's'
  marksEnds := r.has 'E' || r.has 'A' || r.has 'e'
  marksTabs := r.has 'T' || r.has 'A' || r.has 't'
  marksControls :=
    r.has 'v' || r.has 'A' || r.has 'e' || r.has 't'

/- Print files one behind the other. -/
def concatenate : Program :=
  ((OptionTable.ofLetters "nbsETAvetu" "").withNames
    [('n', "number"), ('b', "number-nonblank"),
      ('s', "squeeze-blank"), ('A', "show-all"),
      ('E', "show-ends"), ('T', "show-tabs"),
      ('v', "show-nonprinting")]).program 1 fun call r => do
      let style := styleOf r
      let isPlain := r.options.all fun o => o.1 = 'u'
      let files := Call.inputsOf r.operands
      if isPlain then
        let done ← call.forInputs files Call.plainProblem
          fun _ content => call.print content
        return codeOf done
      else
        let contents ← files.mapM fun file => do
          match ← call.readFile file with
          | .ok content => return some content.toList
          | .error e =>
              call.complain (Call.plainProblem file e)
              return none
        let whole := (contents.filterMap id).flatten
        call.print
          (String.ofList
            (styledLines style 1 false (linesWithEnds whole)))
        return codeOf (contents.all Option.isSome)

/- Copy the standard input to files and to the standard
   output. -/
def tee : Program :=
  ((OptionTable.ofLetters "aip" "").withNames
    [('a', "append")]).program 1 fun call r => do
      let mode : OpenMode :=
        if r.has 'a' then .append else .replace
      let opened ← r.operands.mapM fun file => do
        match ← call.writeFile mode file "" with
        | .ok _ => return (file, true)
        | .error e =>
            call.complain (Call.plainProblem file e)
            return (file, false)
      match ← call.readInput with
      | .error e =>
          call.complain s!"read error: {e.reason}"
          return .exited 1
      | .ok content =>
          call.print content
          opened.forM fun o => do
            if o.2 then
              let _ ← call.writeFile .append o.1 content
          return codeOf (opened.all Prod.snd)

/- Print lines in the opposite order. -/
def reverseLines : Program :=
  (OptionTable.ofLetters "" "").program 1 fun call r => do
    let done ← call.forInputs (Call.inputsOf r.operands)
      (fun file e =>
        s!"failed to open {quoteWord file} for reading: " ++
          e.reason)
      fun _ content =>
        call.print
          (String.ofList
            (linesWithEnds content.toList).reverse.flatten)
    return codeOf done

/- A line with its characters in the opposite order. -/
def reversedLine (line : List Char) : List Char :=
  if line.getLast? = some '\n' then
    line.dropLast.reverse ++ ['\n']
  else line.reverse

/- Print lines with their characters in the opposite
   order. -/
def reverseChars : Program :=
  (OptionTable.ofLetters "" "").program 1 fun call r => do
    let done ← call.forInputs (Call.inputsOf r.operands)
      (fun file e => s!"cannot open {file}: {e.reason}")
      fun _ content =>
        call.print
          (String.ofList
            ((linesWithEnds content.toList).flatMap
              reversedLine))
    return codeOf done

------------------------------------------------------------
-- Parts of Files
------------------------------------------------------------

/- How much of a file is wanted: a number of lines or bytes
   from one end, or all but them. -/
structure Portion where
  countsBytes : Bool
  count : Nat
  inverts : Bool

/- The units of a content that a portion counts. -/
def unitsOf (p : Portion) (content : String) :
    List (List Char) :=
  if p.countsBytes then content.toList.map fun c => [c]
  else linesWithEnds content.toList

/- The portion at the front. -/
def frontOf (p : Portion) (content : String) : String :=
  let units := unitsOf p content
  let count := if p.inverts then units.length - p.count
    else p.count
  String.ofList (units.take count).flatten

/- The portion at the back. An inverted one starts with the
   unit of the given number. -/
def backOf (p : Portion) (content : String) : String :=
  let units := unitsOf p content
  let skipped := if p.inverts then p.count - 1
    else units.length - p.count
  String.ofList (units.drop skipped).flatten

/- The factors that may stand behind a number. -/
def sizeFactor? (ending : List Char) : Option Nat :=
  match ending with
  | [] => some 1
  | ['b'] => some 512
  | ['k'] | ['K'] => some 1024
  | ['k', 'B'] | ['K', 'B'] => some 1000
  | ['M'] => some 1048576
  | ['M', 'B'] => some 1000000
  | ['G'] => some 1073741824
  | _ => none

/- A number that may have a factor behind it. -/
def size? (text : List Char) : Option Nat :=
  let (digits, ending) := spanDigits text
  if digits = [] then none
  else
    (sizeFactor? ending).map fun factor =>
      digitsValue digits * factor

/- The portion that a word stands for. One of the signs
   inverts it. -/
def portion?
    (inverting : Char)
    (countsBytes : Bool)
    (word : String) : Option Portion :=
  match word.toList with
  | c :: rest =>
      if c = inverting then
        (size? rest).map fun count =>
          { countsBytes, count, inverts := true }
      else if c = '-' ∨ c = '+' then
        (size? rest).map fun count =>
          { countsBytes, count, inverts := false }
      else
        (size? (c :: rest)).map fun count =>
          { countsBytes, count, inverts := false }
  | [] => none

/- Options with a number instead of a letter, like `-5`, in
   the usual form. -/
def expandCount (signs : List Char) (args : List String) :
    List String :=
  match args with
  | word :: rest =>
      match word.toList with
      | sign :: d :: digits =>
          if sign ∈ signs ∧ d.isDigit then
            let isCount (c : Char) : Bool :=
              c.isDigit || c ∈ ['k', 'b', 'm']
            let number := (d :: digits).takeWhile isCount
            let letters := (d :: digits).dropWhile isCount
            let value :=
              if sign = '+' then '+' :: number else number
            let letter :=
              if 'c' ∈ letters then "-c" else "-n"
            let others := letters.filter (· ∈ ['q', 'v'])
            letter :: String.ofList value ::
              ((others.map fun c => String.ofList ['-', c]) ++
                rest)
          else args
      | _ => args
  | [] => []

/- The message about a file without a portion. -/
def portionProblem (file : String) (e : OsError) : String :=
  if e = .isDirectory then
    s!"error reading {quoteWord file}: {e.reason}"
  else
    s!"cannot open {quoteWord file} for reading: {e.reason}"

/- Print portions of files, with the names of the files if
   there are several. -/
def printPortions
    (call : Call)
    (r : ReadOptions)
    (inverting : Char)
    (part : Portion → String → String) :
    StateM Machine Ending := do
  let chosen :=
    (r.options.reverse.find? fun o => o.1 = 'c' ∨ o.1 = 'n')
  let (countsBytes, word) : Bool × String :=
    match chosen with
    | some (letter, word) => (letter = 'c', word)
    | none => (false, "10")
  match portion? inverting countsBytes word with
  | none =>
      let unit := if countsBytes then "bytes" else "lines"
      call.complain
        s!"invalid number of {unit}: {quoteWord word}"
      return .exited 1
  | some p =>
      let files := Call.inputsOf r.operands
      let titled :=
        !r.has 'q' && (r.has 'v' || 1 < files.length)
      let (_, failed) ←
        files.foldlM (fun (printed, failed) file => do
          match ← call.readFile file with
          | .ok content =>
              if titled then
                let title :=
                  if file = "-" then "standard input" else file
                let gap := if printed then "\n" else ""
                call.printLine s!"{gap}==> {title} <=="
              call.print (part p content)
              return (true, failed)
          | .error e =>
              call.complain (portionProblem file e)
              return (printed, true)) (false, false)
      return codeOf (!failed)

/- The options of programs that print portions. -/
def portionOptions : OptionTable :=
  (OptionTable.ofLetters "qvzfF" "nc").withNames
    [('n', "lines"), ('c', "bytes"), ('q', "quiet"),
      ('q', "silent"), ('v', "verbose")]

/- Print the first lines or bytes of files. -/
def head : Program := fun call =>
  let call := { call with args := expandCount ['-'] call.args }
  portionOptions.program 1
    (fun call r => printPortions call r '-' frontOf) call

/- Print the last lines or bytes of files. -/
def tail : Program := fun call =>
  let call :=
    { call with args := expandCount ['-', '+'] call.args }
  portionOptions.program 1
    (fun call r => printPortions call r '+' backOf) call

------------------------------------------------------------
-- Counting
------------------------------------------------------------

/- What is counted in a content. -/
structure Counts where
  lines : Nat
  words : Nat
  chars : Nat
  bytes : Nat
  width : Nat

namespace Counts

/- The number of columns that a line takes. -/
def columnsOf (line : List Char) : Nat :=
  line.foldl
    (fun n c => if c = '\t' then (n / 8 + 1) * 8 else n + 1) 0

/- The counts of a content. -/
def ofContent (content : String) : Counts where
  lines := content.toList.count '\n'
  words :=
    ((content.toList.splitOnP isSpaceOrControl).filter
      (· ≠ [])).length
  chars := content.length
  bytes := content.length
  width :=
    ((content.toList.splitOn '\n').map columnsOf).foldl max 0

/- The counts of two contents together. -/
def add (a b : Counts) : Counts where
  lines := a.lines + b.lines
  words := a.words + b.words
  chars := a.chars + b.chars
  bytes := a.bytes + b.bytes
  width := max a.width b.width

/- The counts that options ask for, in their order. -/
def chosen (r : ReadOptions) (c : Counts) : List Nat :=
  let usual :=
    r.options.all fun o => !(o.1 ∈ ['l', 'w', 'c', 'm', 'L'])
  (if usual ∨ r.has 'l' then [c.lines] else []) ++
    (if usual ∨ r.has 'w' then [c.words] else []) ++
    (if r.has 'm' then [c.chars] else []) ++
    (if usual ∨ r.has 'c' then [c.bytes] else []) ++
    (if r.has 'L' then [c.width] else [])

/- No counts. -/
def zero : Counts := ⟨0, 0, 0, 0, 0⟩

end Counts

/- The size of a file, unless it is something else. -/
def fileSize? (call : Call) (m : Machine) (file : String) :
    Option (Option Nat) :=
  if file = "-" then
    match (call.descriptors.channel? 0).bind m.channel? with
    | some (.file place _ _) =>
        match m.tree.find? place with
        | some (.file content) => some (some content.length)
        | _ => some none
    | _ => some none
  else
    match m.tree.entryAt (Call.pathOf file) with
    | .ok (_, .file content) => some (some content.length)
    | .ok (_, .directory) => some none
    | .error _ =>
        if (Machine.device? file).isSome then some none
        else none

/- The width of the columns for counts. It follows the sizes
   of the files. -/
def countWidth
    (call : Call)
    (m : Machine)
    (files : List String)
    (columns : Nat) : Nat :=
  if files.length = 1 ∧ columns = 1 then 1
  else
    let sizes := files.filterMap (fileSize? call m)
    let total := (sizes.filterMap id).foldl (· + ·) 0
    let least := if sizes.any Option.isNone then 7 else 1
    max least (decimalDigits total).length

/- Count lines, words and bytes. -/
def wordCount : Program :=
  ((OptionTable.ofLetters "lwcmL" "").withNames
    [('l', "lines"), ('w', "words"), ('c', "bytes"),
      ('m', "chars"), ('L', "max-line-length")]).program 1
    fun call r => do
      let files := Call.inputsOf r.operands
      let columns := (Counts.chosen r .zero).length
      let width := countWidth call (← get) files columns
      let row (counts : Counts) (title : String) : String :=
        String.intercalate " "
          ((counts.chosen r).map fun n =>
            alignRight width (toString n)) ++ title ++ "\n"
      let all ← files.mapM fun file => do
        let title := if r.operands = [] then "" else " " ++ file
        match ← call.readFile file with
        | .ok content =>
            let counts := Counts.ofContent content
            call.print (row counts title)
            return some counts
        | .error e =>
            call.complain (Call.plainProblem file e)
            if e = .isDirectory then
              call.print (row .zero title)
            return none
      if 1 < files.length then
        call.print
          (row ((all.filterMap id).foldl .add .zero) " total")
      return codeOf (all.all Option.isSome)

------------------------------------------------------------
-- Neighbouring Lines
------------------------------------------------------------

/- Lines that are equal to their neighbours, in groups. -/
def groupBy (same : String → String → Bool) :
    List String → List (List String)
  | [] => []
  | line :: rest =>
      match groupBy same rest with
      | (next :: others) :: groups =>
          if same line next then
            (line :: next :: others) :: groups
          else [line] :: (next :: others) :: groups
      | _ => [[line]]

/- The part of a line that is compared with neighbours. -/
def comparedPart (r : ReadOptions) (line : String) :
    List Char :=
  let number (letter : Char) : Option Nat :=
    (r.value? letter).bind fun v => natural? v.toList
  let isGap (c : Char) : Bool := c = ' ' || c = '\t'
  let skipField (chars : List Char) : List Char :=
    (chars.dropWhile isGap).dropWhile (!isGap ·)
  let behind :=
    (List.range ((number 'f').getD 0)).foldl
      (fun chars _ => skipField chars) line.toList
  let part := behind.drop ((number 's').getD 0)
  let part :=
    match number 'w' with
    | some n => part.take n
    | none => part
  if r.has 'i' then part.map Char.toLower else part

/- Print one line of each group of equal neighbours. -/
def unique : Program :=
  ((OptionTable.ofLetters "cduiDz" "fsw").withNames
    [('c', "count"), ('d', "repeated"), ('u', "unique"),
      ('i', "ignore-case"), ('f', "skip-fields"),
      ('s', "skip-chars"), ('w', "check-chars")]).program 1
    fun call r => do
      let input := r.operands.headD "-"
      match ← call.readFile input with
      | .error e =>
          call.complain (Call.plainProblem input e)
          return .exited 1
      | .ok content =>
          let groups := groupBy
            (fun a b => comparedPart r a = comparedPart r b)
            (linesOfRaw content)
          let wanted := groups.filter fun g =>
            (!r.has 'd' || 1 < g.length) &&
              (!r.has 'u' || g.length = 1)
          let shown := wanted.map fun g =>
            let line := g.headD ""
            if r.has 'c' then
              alignRight 7 (toString g.length) ++ " " ++ line
            else line
          let output :=
            String.join (shown.map fun line => line ++ "\n")
          match r.operands with
          | [_, target] =>
              let _ ← call.writeFile .replace target output
          | _ => call.print output
          return .exited 0

/- Lines with numbers. Blank lines only get one if all lines
   do. -/
def numberedLines (all : Bool) (width : Nat) (gap : String) :
    Nat → List String → List String
  | _, [] => []
  | n, line :: rest =>
      if all ∨ line ≠ "" then
        (alignRight width (toString n) ++ gap ++ line) ::
          numberedLines all width gap (n + 1) rest
      else
        String.ofList
            (List.replicate (width + gap.length) ' ') ::
          numberedLines all width gap n rest

/- Print lines with their numbers. -/
def numberLines : Program :=
  (OptionTable.ofLetters "p" "bwsvin").program 1 fun call r => do
    let contents ← (Call.inputsOf r.operands).mapM fun file => do
      match ← call.readFile file with
      | .ok content => return some (linesOfRaw content)
      | .error e =>
          call.complain (Call.plainProblem file e)
          return none
    let lines := (contents.filterMap id).flatten
    let number (letter : Char) (usual : Nat) : Nat :=
      ((r.value? letter).bind fun v => natural? v.toList).getD
        usual
    (numberedLines (r.value? 'b' = some "a") (number 'w' 6)
      ((r.value? 's').getD "\t") (number 'v' 1) lines).forM
        call.printLine
    return codeOf (contents.all Option.isSome)

/- The programs that go through lines. -/
def lineFilters : Table :=
  [ ("cat", concatenate),
    ("tee", tee),
    ("tac", reverseLines),
    ("rev", reverseChars),
    ("head", head),
    ("tail", tail),
    ("wc", wordCount),
    ("uniq", unique),
    ("nl", numberLines) ]

end Program

end LatencySweep
