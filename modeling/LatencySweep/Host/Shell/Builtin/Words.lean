import LatencySweep.Host.Program.Condition
import LatencySweep.Host.Shell.Builtin.Basic

/-
  Builtins that print, compare and read words.

  Key definitions include:
    * `Shell.echo`
    * `Shell.printf`
    * `Shell.test`
    * `Shell.readLine`
    * `Shell.getOptions`
    * `Shell.wordBuiltins`
-/

namespace LatencySweep

namespace Shell

------------------------------------------------------------
-- Printing
------------------------------------------------------------

/- Print words with their escapes resolved. -/
def echo (args : List String) : Action Nat := do
  let noLineEnd := args.head? = some "-n"
  let words := if noLineEnd then args.tail else args
  let (line, stopped) :=
    EscapeRules.shellArgument.resolve
      (String.intercalate " " words)
  put (if noLineEnd || stopped then line else line ++ "\n")
  return 0

/- The rules of formats in the shell. -/
def formatRules : FormatRules where
  formatEscapes := .shellFormat
  argumentEscapes := .shellArgument
  skipsSizes := false
  roundsToFloat := true
  noNumber text := s!"{text}: expected numeric value"
  partNumber text := s!"{text}: not completely converted"
  outOfRange text := s!"{text}: Numerical result out of range"
  badPlace place :=
    match place.kind with
    | none => "missing format character"
    | some _ =>
        String.ofList place.written ++ ": invalid directive"

/- Print arguments in a format. -/
def printf (args : List String) : Action Nat := do
  let (_, args) ← readFlags [] [] args
  match args with
  | [] => fail "usage: printf format [arg ...]"
  | format :: args =>
      let result := formatRules.print format args
      let problems ← result.printed.mapM fun p =>
        match p with
        | .output text => do
            put text
            return false
        | .problem text => do
            warn text
            return true
      match result.fault with
      | some fault => fail fault
      | none => return if problems.any id then 1 else 0

------------------------------------------------------------
-- Conditions
------------------------------------------------------------

/- Tell whether a condition holds. -/
def test (args : List String) : Action Nat := do
  match Condition.ofShell (← get).machine.tree args with
  | .ok holds => return if holds then 0 else 1
  | .error problem => fail problem

/- Tell whether a condition in brackets holds. -/
def bracketTest (args : List String) : Action Nat := do
  if args.getLast? = some "]" then test args.dropLast
  else fail "missing ]"

------------------------------------------------------------
-- Reading Lines
------------------------------------------------------------

/- The characters of a line, each with whether it may divide
   fields. A backslash takes the meaning of the character
   behind it; in front of a line end both vanish, and the
   line goes on. -/
def lineChars : List Char → List (Char × Bool) × Bool
  | [] => ([], false)
  | ['\\'] => ([], true)
  | '\\' :: '\n' :: _ => ([], true)
  | '\\' :: c :: rest =>
      let (others, goesOn) := lineChars rest
      ((c, false) :: others, goesOn)
  | '\n' :: _ => ([], false)
  | c :: rest =>
      let (others, goesOn) := lineChars rest
      ((c, true) :: others, goesOn)

/- Read a line, with those that it goes on with. The result
   says whether it was complete. -/
def takeLine (keepsBackslashes : Bool) :
    Nat → Action (List (Char × Bool) × Bool)
  | 0 => return ([], false)
  | n + 1 => do
      let s ← get
      match s.machine.readLine s.descriptors 0 with
      | .error _ => return ([], false)
      | .ok (bytes, machine) =>
          set { s with machine }
          let text :=
            (Bytes.toRaw bytes).toList.filter (· ≠ '\x00')
          let complete := text.getLast? = some '\n'
          if keepsBackslashes then
            let line := text.takeWhile (· ≠ '\n')
            return (line.map fun c => (c, true), complete)
          else
            let (line, goesOn) := lineChars text
            if goesOn && complete then
              let (rest, complete) ←
                takeLine keepsBackslashes n
              return (line ++ rest, complete)
            else return (line, complete)

/- A character divides fields. -/
def isDivider (dividers : List Char) (c : Char × Bool) : Bool :=
  c.2 && dividers.contains c.1

/- A character is a blank that divides fields. -/
def isBlankAt (dividers : List Char) (c : Char × Bool) : Bool :=
  isDivider dividers c && Division.isBlankDivider c.1

/- What is left of a line behind a field and its divider. -/
def behindField
    (dividers : List Char)
    (rest : List (Char × Bool)) : List (Char × Bool) :=
  match rest.dropWhile (isBlankAt dividers) with
  | c :: others =>
      if isDivider dividers c then
        others.dropWhile (isBlankAt dividers)
      else c :: others
  | [] => []

/- How far the last field was looked at: the number of
   characters, where dropping would start, whether a divider
   was seen, and whether only blanks were. -/
structure LastField where
  count : Nat := 0
  stop : Option Nat := none
  seen : Bool := false
  onlyBlanks : Bool := false

/- Look at a character of the last field. Blanks at its end
   are dropped, and so is its divider if no other one
   follows. -/
def LastField.take
    (dividers : List Char)
    (f : LastField)
    (c : Char × Bool) : LastField :=
  let next := { f with count := f.count + 1 }
  let isBlankHere := isBlankAt dividers c
  let divides := isDivider dividers c
  if !f.seen then
    if divides then
      { next with
        stop := some f.count, seen := true
        onlyBlanks := isBlankHere }
    else next
  else if isBlankHere then
    { next with stop := some (f.stop.getD f.count) }
  else if divides && f.onlyBlanks then
    { next with onlyBlanks := false }
  else { next with stop := none, onlyBlanks := false }

/- How much of the last field is kept. -/
def keptLength
    (dividers : List Char)
    (line : List (Char × Bool)) : Nat :=
  let f := line.foldl (LastField.take dividers) {}
  f.stop.getD f.count

/- The values that a line gives to a number of variables. -/
def lineFields
    (dividers : List Char) :
    Nat → List (Char × Bool) → List String
  | 0, _ => []
  | n + 1, line =>
      let line := line.dropWhile (isBlankAt dividers)
      if n = 0 then
        let kept := line.take (keptLength dividers line)
        [String.ofList (kept.map Prod.fst)]
      else
        let field :=
          line.takeWhile fun c => !isDivider dividers c
        String.ofList (field.map Prod.fst) ::
          lineFields dividers n
            (behindField dividers (line.drop field.length))

/- Read a line into variables. The last one gets what is
   left of the line. -/
def readVariables (args : List String) : Action Nat := do
  let (given, names) ← readFlags ['r'] ['p'] args
  if names.isEmpty then fail "arg count"
  let (line, complete) ← takeLine (hasFlag given 'r') 1000
  let dividers := (← get).dividers
  let values := lineFields dividers names.length line
  (names.zip values).forM fun (name, value) =>
    assign name value
  return if complete then 0 else 1

example :
    lineFields [' ', ':'] 2
        ("a : b : ".toList.map fun c => (c, true)) =
      ["a", "b"] := by decide +kernel

------------------------------------------------------------
-- Options of Scripts
------------------------------------------------------------

/- An option letter in a description, and whether it takes a
   value. -/
def describedOption? (c : Char) : List Char → Option Bool
  | [] => none
  | d :: rest =>
      if d = c && d ≠ ':' then some (rest.head? = some ':')
      else describedOption? c rest

/- Give the variables of an option their values, and note
   the place of the next one. -/
def noteOption
    (name letter : String)
    (value : Option String)
    (place : Nat × Nat) : Action Unit := do
  modify fun s =>
    match value with
    | some text => s.putVariable "OPTARG" { value := some text }
    | none => s.dropVariable "OPTARG"
  assign "OPTIND" (toString place.1)
  modify fun s => { s with optionPlace := place }
  assign name letter

/- Take the option at a place of a word. -/
def takeOption
    (described : List Char)
    (name : String)
    (word : List Char)
    (behind : Option String)
    (index place : Nat) : Action Nat := do
  let silent := described.head? = some ':'
  let c := (word[place]?).getD '-'
  let isLast := word.length ≤ place + 1
  let next : Nat × Nat :=
    if isLast then (index + 1, 0) else (index, place + 1)
  let letter := String.ofList [c]
  let problem (text : String) : Action Unit := do
    let _ ← writeRaw 2 text
  match describedOption? c described with
  | none =>
      if silent then noteOption name "?" (some letter) next
      else
        problem s!"Illegal option -{c}\n"
        noteOption name "?" none next
  | some false => noteOption name letter (some "") next
  | some true =>
      if !isLast then
        noteOption name letter
          (some (String.ofList (word.drop (place + 1))))
          (index + 1, 0)
      else
        match behind with
        | some value =>
            noteOption name letter (some value) (index + 2, 0)
        | none =>
            if silent then
              noteOption name ":" (some letter) (index + 1, 0)
            else
              problem s!"No arg for -{c} option\n"
              noteOption name "?" none (index + 1, 0)
  return 0

/- Take the next option of the arguments. -/
def getOptions (args : List String) : Action Nat := do
  match args with
  | described :: name :: rest =>
      let s ← get
      let words := if rest.isEmpty then s.args else rest
      let (index, place) := s.optionPlace
      let index := max index 1
      let ending (index : Nat) : Action Nat := do
        noteOption name "?" none (index, 0)
        return 1
      match words[index - 1]? with
      | none => ending index
      | some word =>
          let cs := word.toList
          if place = 0 then
            match cs with
            | ['-', '-'] => ending (index + 1)
            | '-' :: _ :: _ =>
                takeOption described.toList name cs
                  words[index]? index 1
            | _ => ending index
          else
            takeOption described.toList name cs words[index]?
              index place
  | _ => fail "Usage: getopts optstring var [arg...]"

/- The builtins for words. -/
def wordBuiltins : Builtins :=
  [ ("echo", { run := echo }), ("printf", { run := printf }),
    ("test", { run := test }), ("[", { run := bracketTest }),
    ("read", { run := readVariables }),
    ("getopts", { run := getOptions }) ]

end Shell

end LatencySweep
