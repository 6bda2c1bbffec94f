import LatencySweep.Host.Program.Format
import LatencySweep.Host.Program.Options

/-
  Programs that print words and numbers.

  Key definitions include:
    * `Program.echo`
    * `Program.printf`
    * `Program.sequence`
    * `Program.outputs`
-/

namespace LatencySweep

namespace Program

------------------------------------------------------------
-- Words
------------------------------------------------------------

/- A word in single quotes, as it stands in messages. -/
def quoteWord (word : String) : String :=
  let escaped (c : Char) : List Char :=
    if c = '\'' then ['\\', '\''] else [c]
  "'" ++ String.ofList (word.toList.flatMap escaped) ++ "'"

/- The letters of an option word for printing. -/
def echoLetters? (word : String) : Option (List Char) :=
  match word.toList with
  | '-' :: c :: rest =>
      if (c :: rest).all (· ∈ ['n', 'e', 'E']) then
        some (c :: rest)
      else none
  | _ => none

/- Print words. The options say whether escapes are resolved
   and whether a line end follows. -/
def echo : Program := fun call => do
  let given := call.args.takeWhile fun w =>
    (echoLetters? w).isSome
  let letters := given.flatMap fun w => (echoLetters? w).getD []
  let words := call.args.drop given.length
  let resolves :=
    (letters.reverse.find? fun c => c ≠ 'n') = some 'e'
  let line := String.intercalate " " words
  let (line, stopped) :=
    if resolves then EscapeRules.argument.resolve line
    else (line, false)
  let ending := if stopped ∨ 'n' ∈ letters then "" else "\n"
  call.print (line ++ ending)
  return .exited 0

/- Print what was printed in a format, problems in between. -/
def printAll
    (call : Call) : List Printed → StateM Machine Unit
  | [] => return ()
  | .output text :: rest => do
      call.print text
      printAll call rest
  | .problem text :: rest => do
      call.complain text
      printAll call rest

/- The rules of formats outside of the shell. -/
def printfRules : FormatRules where
  formatEscapes := .format
  argumentEscapes := .argument
  skipsSizes := true
  roundsToFloat := false
  noNumber text := s!"{quoteWord text}: expected a numeric value"
  partNumber text :=
    s!"{quoteWord text}: value not completely converted"
  outOfRange text :=
    s!"{quoteWord text}: Numerical result out of range"
  badPlace place :=
    String.ofList place.written ++
      ": invalid conversion specification"

/- Print arguments in a format. -/
def printf : Program := fun call => do
  let args :=
    if call.args.head? = some "--" then call.args.tail
    else call.args
  match args with
  | [] => call.misuse "missing operand" 1
  | format :: args =>
      let result := printfRules.print format args
      printAll call result.printed
      match result.fault with
      | some fault =>
          call.complain fault
          return .exited 1
      | none =>
          match result.args with
          | excess :: _ =>
              if result.ended then return .exited 0
              call.complain
                ("warning: ignoring excess arguments, " ++
                  s!"starting with {quoteWord excess}")
              return .exited 0
          | [] =>
              let isProblem (p : Printed) : Bool :=
                match p with
                | .problem _ => true
                | .output _ => false
              return .exited
                (if result.printed.any isProblem then 1 else 0)

/- How often a word is repeated at most. No reader takes so
   many lines. -/
def repetitions : Nat := 20000

/- Print words again and again until nobody reads them. -/
def repeatWords : Program := fun call => do
  let line :=
    if call.args = [] then "y"
    else String.intercalate " " call.args
  call.print
    (String.join (List.replicate repetitions (line ++ "\n")))
  return .killed 13

------------------------------------------------------------
-- Numbers in a Row
------------------------------------------------------------

/- A decimal number with a sign: its digits as a whole
   number, and how many of them are behind the point. -/
structure Step where
  digits : Int
  places : Nat

namespace Step

/- The step that a word stands for. -/
def ofWord? (word : String) : Option Step :=
  match Measure.span? word.toList with
  | some ((negative, .quotient q), []) =>
      let places := (decimalDigits q.den).length - 1
      some
        { digits := if negative then -(q.num : Int) else q.num
          places }
  | _ => none

/- The digits of a step with more places behind the
   point. -/
def scaled (s : Step) (places : Nat) : Int :=
  s.digits * (tenTo (places - s.places) : Int)

/- A number with some places behind the point. -/
def text (places : Nat) (n : Int) : String :=
  let digits := Quotient.fixed ⟨n.natAbs, tenTo places⟩
    places false
  String.ofList (if n < 0 then '-' :: digits else digits)

end Step

/- The numbers from one on by steps up to another one. -/
def numbersFrom
    (step last : Int) : Nat → Int → List Int
  | 0, _ => []
  | n + 1, first =>
      if 0 ≤ step ∧ last < first ∨ step < 0 ∧ first < last then
        []
      else first :: numbersFrom step last n (first + step)

/- Texts of equal width, filled with zeros at their front. -/
def equalWidth (texts : List String) : List String :=
  let width := (texts.map String.length).foldl max 0
  texts.map fun text =>
    let missing := List.replicate (width - text.length) '0'
    match text.toList with
    | '-' :: rest => String.ofList ('-' :: missing ++ rest)
    | chars => String.ofList (missing ++ chars)

/- The words for numbers, with options in front of them. A
   negative number is no option. -/
def sequenceOptions : OptionTable :=
  (OptionTable.ofLetters "w" "sf").withNames
    [('w', "equal-width"), ('s', "separator"), ('f', "format")]

/- A word starts like a negative number. -/
def isNegativeNumber (word : String) : Bool :=
  match word.toList with
  | '-' :: c :: _ => c.isDigit || c = '.'
  | _ => false

/- Print the numbers between bounds. -/
def printSequence
    (call : Call)
    (r : ReadOptions)
    (first step last : Step) : StateM Machine Ending := do
  let places := max first.places step.places
  let common := max places last.places
  let (a, d, z) :=
    (first.scaled common, step.scaled common,
      last.scaled common)
  let count := ((z - a).natAbs / d.natAbs) + 1
  let numbers := numbersFrom d z count a
  let shrunk := numbers.map fun n =>
    n / (tenTo (common - places) : Int)
  let texts :=
    match r.value? 'f' with
    | some format =>
        shrunk.map fun n =>
          String.join
            ((printfRules.print format
              [Step.text places n]).printed.map fun p =>
                match p with
                | .output text => text
                | .problem _ => "")
    | none =>
        let plain := shrunk.map (Step.text places)
        if r.has 'w' then equalWidth plain else plain
  let separator := (r.value? 's').getD "\n"
  if texts ≠ [] then
    call.print (String.intercalate separator texts ++ "\n")
  return .exited 0

/- Print a row of numbers. -/
def sequence : Program := fun call =>
  let front := call.args.takeWhile fun w => !isNegativeNumber w
  let behind := call.args.drop front.length
  match { sequenceOptions with stopsAtOperand := true }.read
      front with
  | .error problem => call.misuse problem 1
  | .ok r =>
      let words := r.operands ++ behind
      match words.find? fun w => (Step.ofWord? w).isNone with
      | some word =>
          call.misuse
            ("invalid floating point argument: " ++
              quoteWord word) 1
      | none =>
          let one : Step := ⟨1, 0⟩
          match words, words.filterMap Step.ofWord? with
          | _, [] => call.misuse "missing operand" 1
          | _, [last] => printSequence call r one one last
          | _, [first, last] =>
              printSequence call r first one last
          | [_, word, _], [first, step, last] =>
              if step.digits = 0 then
                call.misuse
                  ("invalid Zero increment value: " ++
                    quoteWord word) 1
              else printSequence call r first step last
          | _ :: _ :: _ :: word :: _, _ =>
              call.misuse s!"extra operand {quoteWord word}" 1
          | _, _ => call.misuse "missing operand" 1

------------------------------------------------------------
-- Names of Files
------------------------------------------------------------

/- A path without the separators at its end. -/
def trimSeparators (path : List Char) : List Char :=
  (path.reverse.dropWhile (· = '/')).reverse

/- The last name of a path. -/
def baseName (path : String) : String :=
  match trimSeparators path.toList with
  | [] => if path = "" then "" else "/"
  | trimmed =>
      String.ofList
        (trimmed.reverse.takeWhile (· ≠ '/')).reverse

/- A name without an ending, unless nothing else is left. -/
def dropEnding (ending name : String) : String :=
  if name ≠ ending ∧
      ending.toList.reverse.isPrefixOf name.toList.reverse then
    String.ofList
      (name.toList.take (name.length - ending.length))
  else name

/- The path of the directory that a name stands in. -/
def directoryName (path : String) : String :=
  let trimmed := trimSeparators path.toList
  let front :=
    (trimmed.reverse.dropWhile (· ≠ '/')).reverse
  match trimSeparators front with
  | [] =>
      if front ≠ [] ∨ trimmed = [] ∧ path ≠ "" then "/"
      else "."
  | directory => String.ofList directory

/- Print the last names of paths. -/
def baseNames : Program :=
  ((OptionTable.ofLetters "az" "s").withNames
    [('a', "multiple"), ('s', "suffix"),
      ('z', "zero")]).program 1 fun call r => do
      let ending := r.value? 's'
      let last := if r.has 'z' then "\x00" else "\n"
      let say (suffix path : String) : StateM Machine Unit :=
        call.print (dropEnding suffix (baseName path) ++ last)
      match r.operands with
      | [] => call.misuse "missing operand" 1
      | paths =>
          if r.has 'a' ∨ ending.isSome then
            paths.forM (say (ending.getD ""))
            return .exited 0
          else
            match paths with
            | [path] =>
                say "" path
                return .exited 0
            | [path, suffix] =>
                say suffix path
                return .exited 0
            | _ =>
                let extra := (paths.drop 2).headD ""
                call.misuse
                  s!"extra operand {quoteWord extra}" 1

/- Print the directories of paths. -/
def directoryNames : Program :=
  ((OptionTable.ofLetters "z" "").withNames
    [('z', "zero")]).program 1 fun call r => do
      if r.operands = [] then call.misuse "missing operand" 1
      else
        let last := if r.has 'z' then "\x00" else "\n"
        r.operands.forM fun path =>
          call.print (directoryName path ++ last)
        return .exited 0

------------------------------------------------------------
-- Surroundings
------------------------------------------------------------

/- Print the path of the working directory. -/
def printDirectory : Program :=
  (OptionTable.ofLetters "LP" "").program 1 fun call _ => do
    call.printLine (rawOfText (← get).tree.workPath.text)
    return .exited 0

/- Print the values of variables, or all of them. -/
def printVariables : Program := fun call => do
  if call.args = [] then
    call.environment.forM fun v =>
      call.printLine s!"{v.1}={v.2}"
    return .exited 0
  else
    forAll 1 call.args fun name => do
      match call.environment.lookup name with
      | some value =>
          call.printLine value
          return true
      | none => return false

/- A text that a word may be for a time span. -/
def isTimeSpan (word : String) : Bool :=
  match Measure.span? word.toList with
  | some ((false, _), rest) =>
      rest = [] || rest ∈ [['s'], ['m'], ['h'], ['d']]
  | _ => false

/- Let time pass. -/
def sleep : Program := fun call => do
  match call.args with
  | [] => call.misuse "missing operand" 1
  | words =>
      match words.find? fun w => !isTimeSpan w with
      | some word =>
          call.misuse
            s!"invalid time interval {quoteWord word}" 1
      | none => return .exited 0

/- A program that prints one line. -/
def saying (line : String) : Program := fun call => do
  call.printLine line
  return .exited 0

/- Print who runs the program. -/
def printUser : Program := fun call => do
  match call.args with
  | [] =>
      call.printLine "uid=0(root) gid=0(root) groups=0(root)"
  | ["-un"] | ["-gn"] | ["-Gn"] => call.printLine "root"
  | _ => call.printLine "0"
  return .exited 0

/- The programs that print words and numbers. -/
def outputs : Table :=
  [ ("true", exitWith 0),
    ("false", exitWith 1),
    ("echo", echo),
    ("printf", printf),
    ("yes", repeatWords),
    ("seq", sequence),
    ("basename", baseNames),
    ("dirname", directoryNames),
    ("pwd", printDirectory),
    ("printenv", printVariables),
    ("sleep", sleep),
    ("sync", exitWith 0),
    ("whoami", saying "root"),
    ("uname", saying "Linux"),
    ("arch", saying "x86_64"),
    ("id", printUser) ]

end Program

end LatencySweep
