import LatencySweep.Host.Program.Lines

/-
  Programs that cut lines into columns and put lines next to
  each other.

  Key definitions include:
    * `Selection`
    * `Program.cut`
    * `Program.paste`
    * `Program.fold`
    * `Program.columns`
-/

namespace LatencySweep

------------------------------------------------------------
-- Selections
------------------------------------------------------------

/- Ranges of positions, which count from one. A range
   without an upper end goes on. -/
structure Selection where
  ranges : List (Nat × Option Nat)
  inverted : Bool

namespace Selection

/- A position is selected. -/
def has (s : Selection) (position : Nat) : Bool :=
  let inRange (range : Nat × Option Nat) : Bool :=
    range.1 ≤ position &&
      (match range.2 with
      | none => true
      | some last => position ≤ last)
  s.ranges.any inRange != s.inverted

/- The range that a text stands for. -/
def range? (text : List Char) : Option (Nat × Option Nat) :=
  let first := text.takeWhile (· ≠ '-')
  match text.drop first.length, natural? first with
  | [], some n => some (n, some n)
  | ['-'], some n => some (n, none)
  | '-' :: last, some n =>
      (natural? last).map fun m => (n, some m)
  | '-' :: last, none =>
      if first = [] then
        (natural? last).map fun m => (1, some m)
      else none
  | _, _ => none

/- The ranges that a list of them stands for, or what is
   wrong with it. -/
def ofWord
    (fields inverted : Bool)
    (word : String) : Except String Selection :=
  let pieces := word.toList.splitOnP fun c => c = ',' || c = ' '
  let ranges := pieces.map range?
  let bad := (pieces.zip ranges).find? fun p => p.2.isNone
  let numbered :=
    if fields then "fields are numbered from 1"
    else "byte/character positions are numbered from 1"
  match bad with
  | some ([], _) => .error numbered
  | some (piece, _) =>
      let kind := if fields then "field value"
        else "byte/character position"
      let shown := Program.quoteWord (String.ofList piece)
      if piece = ['-'] then
        .error "invalid range with no endpoint: -"
      else .error s!"invalid {kind} {shown}"
  | none =>
      let ranges := ranges.filterMap id
      let falls (range : Nat × Option Nat) : Bool :=
        match range.2 with
        | some last => last < range.1
        | none => false
      if ranges.any fun range => range.1 = 0 then
        .error numbered
      else if ranges.any falls then
        .error "invalid decreasing range"
      else .ok { ranges, inverted }

/- The selected ones of some values. -/
def pick {α : Type} (s : Selection) (values : List α) :
    List α :=
  ((values.zip (List.range values.length)).filter
    fun v => s.has (v.2 + 1)).map Prod.fst

end Selection

namespace Program

------------------------------------------------------------
-- Cutting
------------------------------------------------------------

/- How lines are cut. -/
structure Cutting where
  selection : Selection
  delimiter : Option Char
  onlyDelimited : Bool
  glue : Option String

/- The pieces that are kept of a line, unless the line is
   left out. -/
def Cutting.apply (c : Cutting) (line : String) :
    Option String :=
  match c.delimiter with
  | none =>
      some (String.ofList (c.selection.pick line.toList))
  | some delimiter =>
      if delimiter ∈ line.toList then
        let fields :=
          (line.toList.splitOn delimiter).map String.ofList
        some
          (String.intercalate
            (c.glue.getD (String.singleton delimiter))
            (c.selection.pick fields))
      else if c.onlyDelimited then none
      else some line

/- The way to cut that options ask for, or what is wrong
   with them. -/
def cuttingOf (r : ReadOptions) : Except String Cutting := do
  let lists := r.options.filter fun o =>
    o.1 ∈ ['b', 'c', 'f']
  match lists with
  | [] =>
      .error
        ("you must specify a list of bytes, characters, " ++
          "or fields")
  | [(letter, word)] =>
      let fields := letter = 'f'
      let selection ←
        Selection.ofWord fields (r.has 'C') word
      let delimiter ←
        match r.value? 'd' with
        | none => .ok (if fields then some '\t' else none)
        | some word =>
            match word.toList with
            | [c] =>
                if fields then .ok (some c)
                else
                  .error
                    ("an input delimiter may be specified " ++
                      "only when operating on fields")
            | _ =>
                .error "the delimiter must be a single character"
      return { selection, delimiter
               onlyDelimited := r.has 's'
               glue := r.value? 'O' }
  | _ => .error "only one list may be specified"

/- Print parts of lines. -/
def cut : Program :=
  ((OptionTable.ofLetters "snCz" "bcfdO").withNames
    [ ('b', "bytes"), ('c', "characters"), ('f', "fields"),
      ('d', "delimiter"), ('s', "only-delimited"),
      ('C', "complement"),
      ('O', "output-delimiter") ]).program 1 fun call r => do
    match cuttingOf r with
    | .error problem => call.misuse problem 1
    | .ok cutting =>
        let done ← call.forInputs (Call.inputsOf r.operands)
          Call.plainProblem fun _ content =>
            ((linesOfRaw content).filterMap cutting.apply).forM
              call.printLine
        return codeOf done

------------------------------------------------------------
-- Joining
------------------------------------------------------------

/- Words with glue between them, taken in turn from a list
   that starts anew at its end. -/
def glueFrom (all : List String) :
    List String → List String → String
  | _, [] => ""
  | _, [word] => word
  | [], word :: rest =>
      word ++ all.headD "" ++ glueFrom all all.tail rest
  | glue :: others, word :: rest =>
      word ++ glue ++ glueFrom all others rest

/- The pieces of glue that a word stands for. -/
def gluesOf (word : String) : List String :=
  let rec go : List Char → List String
    | [] => []
    | '\\' :: '0' :: rest => "" :: go rest
    | '\\' :: 'n' :: rest => "\n" :: go rest
    | '\\' :: 't' :: rest => "\t" :: go rest
    | '\\' :: '\\' :: rest => "\\" :: go rest
    | c :: rest => String.singleton c :: go rest
  go word.toList

/- Deal out lines of the standard input to the files that
   stand for it, in turn. -/
def dealLines (files : List (Option (List String))) :
    Nat → List String → List (List String)
  | 0, _ => []
  | n + 1, shared =>
      let step := files.foldl
        (fun (acc : List String × List String × Bool) file =>
          match file with
          | some lines =>
              let row := acc.1 ++ [(lines[0]?).getD ""]
              (row, acc.2.1, acc.2.2 || lines ≠ [])
          | none =>
              let row := acc.1 ++ [acc.2.1.headD ""]
              (row, acc.2.1.tail, acc.2.2 || acc.2.1 ≠ []))
        ([], shared, false)
      if step.2.2 then
        step.1 :: dealLines
          (files.map fun f => f.map List.tail) n step.2.1
      else []

/- Print lines of several files next to each other. -/
def paste : Program :=
  ((OptionTable.ofLetters "sz" "d").withNames
    [('s', "serial"), ('d', "delimiters")]).program 1
    fun call r => do
      let glues := gluesOf ((r.value? 'd').getD "\t")
      let files := Call.inputsOf r.operands
      let contents ← files.mapM fun file => do
        match ← call.readFile file with
        | .ok content => return some (linesOfRaw content)
        | .error e =>
            call.complain (Call.plainProblem file e)
            return none
      if contents.any Option.isNone then return .exited 1
      let lines := contents.filterMap id
      if r.has 's' then
        lines.forM fun ls =>
          call.printLine (glueFrom glues glues ls)
        return .exited 0
      else
        let shared := lines.flatten
        let dealt :=
          if files.all (· = "-") then
            dealLines (files.map fun _ => none)
              (shared.length + 1) shared
          else
            dealLines (lines.map some) (shared.length + 1) []
        dealt.forM fun row =>
          call.printLine (glueFrom glues glues row)
        return .exited 0

------------------------------------------------------------
-- Breaking
------------------------------------------------------------

/- A line broken into pieces of at most the given width. -/
def foldLine (atBlanks : Bool) (width : Nat) :
    Nat → List Char → List (List Char)
  | 0, line => [line]
  | n + 1, line =>
      if line.length ≤ width ∨ width = 0 then [line]
      else
        let front := line.take width
        let word := (front.reverse.takeWhile (· ≠ ' ')).length
        let size :=
          if atBlanks ∧ word < width then width - word
          else width
        line.take size :: foldLine atBlanks width n
          (line.drop size)

/- Break long lines. -/
def fold : Program :=
  ((OptionTable.ofLetters "bs" "w").withNames
    [('w', "width"), ('s', "spaces")]).program 1
    fun call r => do
      let width :=
        ((r.value? 'w').bind fun v => natural? v.toList).getD 80
      let done ← call.forInputs (Call.inputsOf r.operands)
        Call.plainProblem fun _ content => do
          let pieces := (content.toList.splitOn '\n').map
            fun line =>
              ['\n'].intercalate
                (foldLine (r.has 's') width line.length line)
          call.print (String.ofList (['\n'].intercalate pieces))
      return codeOf done

/- The programs for columns. -/
def columns : Table :=
  [("cut", cut), ("paste", paste), ("fold", fold)]

end Program

end LatencySweep
