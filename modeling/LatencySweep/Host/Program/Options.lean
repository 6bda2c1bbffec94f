import LatencySweep.Host.Program

/-
  Options and operands of programs.

  Options are letters behind a dash or names behind two
  dashes. Options may follow operands, unless the program
  stops reading options at the first operand. After two
  dashes alone there are no more options.

  Key definitions include:
    * `OptionLetter`
    * `OptionTable`
    * `OptionTable.read`
-/

namespace LatencySweep

/- An option with its letter and names. -/
structure OptionLetter where
  letter : Char
  takesValue : Bool := false
  names : List String := []

/- The options of a program. -/
structure OptionTable where
  letters : List OptionLetter
  stopsAtOperand : Bool := false

/- The options that were given, in order, and the
   operands. -/
structure ReadOptions where
  options : List (Char × String)
  operands : List String

namespace ReadOptions

/- An option was given. -/
def has (r : ReadOptions) (letter : Char) : Bool :=
  r.options.any fun o => o.1 = letter

/- The last value of an option. -/
def value? (r : ReadOptions) (letter : Char) : Option String :=
  (r.options.reverse.find? fun o => o.1 = letter).map Prod.snd

/- All values of an option. -/
def values (r : ReadOptions) (letter : Char) : List String :=
  (r.options.filter fun o => o.1 = letter).map Prod.snd

end ReadOptions

namespace OptionTable

/- Options that take no value, given by their letters, and
   options that do. -/
def ofLetters (flags valued : String) : OptionTable where
  letters :=
    (flags.toList.map fun c => { letter := c }) ++
      valued.toList.map fun c =>
        { letter := c, takesValue := true }

/- The table with names for letters. -/
def withNames
    (table : OptionTable)
    (names : List (Char × String)) : OptionTable :=
  { table with
    letters := table.letters.map fun o =>
      { o with
        names :=
          (names.filter fun n => n.1 = o.letter).map
            Prod.snd } }

/- The option with a letter. -/
def lettered?
    (table : OptionTable)
    (letter : Char) : Option OptionLetter :=
  table.letters.find? fun o => o.letter = letter

/- The full names that a shortened name may stand for. -/
def candidates
    (table : OptionTable)
    (name : String) : List (String × OptionLetter) :=
  let all := table.letters.flatMap fun o =>
    o.names.map fun n => (n, o)
  let exact := all.filter fun c => c.1 = name
  if exact ≠ [] then exact
  else all.filter fun c => name.toList.isPrefixOf c.1.toList

/- The letters of one word. The result holds the letter that
   waits for the next word as its value. -/
def readLetters
    (table : OptionTable) :
    List Char →
      Except String (List (Char × String) × Option Char)
  | [] => .ok ([], none)
  | c :: rest =>
      match table.lettered? c with
      | none => .error s!"invalid option -- '{c}'"
      | some option =>
          if option.takesValue then
            if rest = [] then .ok ([], some c)
            else .ok ([(c, String.ofList rest)], none)
          else
            match readLetters table rest with
            | .error e => .error e
            | .ok (options, waiting) =>
                .ok ((c, "") :: options, waiting)

/- A name, perhaps with a value behind an equals sign. The
   result says whether the next word is the value. -/
def readName
    (table : OptionTable)
    (text : List Char) : Except String ((Char × String) × Bool) :=
  let name := String.ofList (text.takeWhile (· ≠ '='))
  let attached := text.dropWhile (· ≠ '=')
  match table.candidates name, attached with
  | [], _ =>
      .error s!"unrecognized option '--{String.ofList text}'"
  | [(full, option)], [] =>
      .ok ((option.letter, full), option.takesValue)
  | [(full, option)], _ :: value =>
      if option.takesValue then
        .ok ((option.letter, String.ofList value), false)
      else
        .error
          s!"option '--{full}' doesn't allow an argument"
  | several, _ =>
      .error
        (s!"option '--{name}' is ambiguous; possibilities:" ++
          String.join
            (several.map fun c => s!" '--{c.1}'"))

/- Read words from the front. -/
def readFrom
    (table : OptionTable) :
    List String → Option (Char × String) → ReadOptions →
      Except String ReadOptions
  | [], none, r => .ok r
  | [], some (letter, name), _ =>
      if name = "" then
        .error s!"option requires an argument -- '{letter}'"
      else .error s!"option '--{name}' requires an argument"
  | word :: rest, some (letter, _), r =>
      readFrom table rest none
        { r with options := r.options ++ [(letter, word)] }
  | word :: rest, none, r =>
      match word.toList with
      | ['-', '-'] =>
          .ok { r with operands := r.operands ++ rest }
      | '-' :: '-' :: text =>
          match table.readName text with
          | .error e => .error e
          | .ok ((letter, full), true) =>
              readFrom table rest (some (letter, full)) r
          | .ok (option, false) =>
              readFrom table rest none
                { r with options := r.options ++ [option] }
      | '-' :: c :: letters =>
          match table.readLetters (c :: letters) with
          | .error e => .error e
          | .ok (options, waiting) =>
              readFrom table rest
                (waiting.map fun letter => (letter, ""))
                { r with options := r.options ++ options }
      | _ =>
          if table.stopsAtOperand then
            .ok { r with operands := r.operands ++ word :: rest }
          else
            readFrom table rest none
              { r with operands := r.operands ++ [word] }

/- The options and operands among some words. -/
def read
    (table : OptionTable)
    (words : List String) : Except String ReadOptions :=
  table.readFrom words none { options := [], operands := [] }

/- A program that reads its options before it starts. -/
def program
    (table : OptionTable)
    (misuseCode : Nat)
    (body : Call → ReadOptions → StateM Machine Ending) :
    Program := fun call =>
  match table.read call.args with
  | .error problem => call.misuse problem misuseCode
  | .ok r => body call r

example :
    ((ofLetters "qv" "n").read
        ["-qn3", "x", "-v"]).toOption.map
      (fun r => (r.options, r.operands)) =
        some ([('q', ""), ('n', "3"), ('v', "")], ["x"]) := by
  decide +kernel

end OptionTable

end LatencySweep
