/-
  Reading the arguments of a command.

  An option has a name, as in `--preset`, and may have a
  letter, as in `-p`. A value follows as the next argument
  or is attached: `--preset=static`, `-p=static` and
  `-pstatic` say the same. No option may be given twice. A
  value that is an argument of its own may not look like an
  option. After `--`, no argument is an option.

  Key definitions include:
    * `CommandOption`
    * `CommandForm`
    * `Misuse`
    * `ArgumentWord`
    * `CommandForm.read`
-/

namespace LatencySweep

------------------------------------------------------------
-- Forms
------------------------------------------------------------

variable {α : Type}

/- A value that is kept in the settings of a command, unless
   it cannot be read. -/
structure ValueSlot (α : Type) where
  name : String
  set? : String → α → Option α

/- What an option does. -/
inductive OptionEffect (α : Type) where
  | flag (set : α → α)
  | value (set? : String → α → Option α)
  | help

/- An option of a command. -/
structure CommandOption (α : Type) where
  name : String
  letter : Option Char := none
  effect : OptionEffect α

/- What a command takes: options, and values in the order
   of their places. -/
structure CommandForm (α : Type) where
  program : String
  options : List (CommandOption α)
  places : List (ValueSlot α)
  initial : α

/- Why a command line cannot be read. -/
inductive Misuse where
  | unknownOption (text : String)
  | repeatedOption (name : String)
  | missingValue (name : String)
  | needlessValue (name value : String)
  | unreadableValue (name value : String)
  | needlessArgument (text : String)
  deriving DecidableEq

/- The text of a misuse. -/
def Misuse.message : Misuse → String
  | unknownOption text => s!"unexpected argument '{text}' found"
  | repeatedOption name =>
      s!"the argument '--{name}' cannot be used " ++
        "multiple times"
  | missingValue name =>
      s!"a value is required for '{name}' but none was " ++
        "supplied"
  | needlessValue name value =>
      s!"unexpected value '{value}' for '--{name}' found"
  | unreadableValue name value =>
      s!"invalid value '{value}' for '{name}'"
  | needlessArgument text =>
      s!"unexpected argument '{text}' found"

/- Why a command is not carried out. -/
inductive Refusal where
  | help
  | misuse (cause : Misuse)
  deriving DecidableEq

------------------------------------------------------------
-- Words
------------------------------------------------------------

/- What an argument looks like. -/
inductive ArgumentWord where
  | terminator
  | long (name : String) (attached : Option String)
  | letters (text : List Char)
  | plain (text : String)
  deriving DecidableEq

/- A name and the value behind an equals sign. -/
def splitAttached (text : List Char) : String × Option String :=
  let name := text.takeWhile (· ≠ '=')
  match text.drop name.length with
  | [] => (String.ofList name, none)
  | _ :: value => (String.ofList name, some (String.ofList value))

/- What an argument looks like. -/
def ArgumentWord.ofText (text : String) : ArgumentWord :=
  match text.toList with
  | ['-', '-'] => .terminator
  | '-' :: '-' :: rest =>
      let (name, attached) := splitAttached rest
      .long name attached
  | '-' :: c :: rest => .letters (c :: rest)
  | _ => .plain text

example : ArgumentWord.ofText "--a=b=c" =
    .long "a" (some "b=c") := by decide +kernel
example : ArgumentWord.ofText "-j4" =
    .letters ['j', '4'] := by decide +kernel
example : ArgumentWord.ofText "-" = .plain "-" := by
  decide +kernel

/- The value attached to a letter. -/
def attachedValue? (text : List Char) : Option String :=
  match text with
  | [] => none
  | '=' :: rest => some (String.ofList rest)
  | rest => some (String.ofList rest)

------------------------------------------------------------
-- Reading
------------------------------------------------------------

/- The settings so far, the options that were given, and
   the places that are still free. -/
structure CommandReading (α : Type) where
  settings : α
  given : List String
  free : List (ValueSlot α)

namespace CommandReading

/- Keep a value. -/
def keep
    (r : CommandReading α)
    (slot : ValueSlot α)
    (value : String) : Except Refusal (CommandReading α) :=
  match slot.set? value r.settings with
  | none => .error (.misuse (.unreadableValue slot.name value))
  | some settings => .ok { r with settings }

/- Keep a value in the next free place. -/
def place
    (r : CommandReading α)
    (value : String) : Except Refusal (CommandReading α) :=
  match r.free with
  | [] => .error (.misuse (.needlessArgument value))
  | slot :: free => keep { r with free } slot value

/-
  Take an option with the value attached to it. The result
  says which slot waits for the next argument.
-/
def take
    (r : CommandReading α)
    (option : CommandOption α)
    (attached : Option String) :
    Except Refusal
      (CommandReading α × Option (ValueSlot α)) :=
  let name := option.name
  let marked := { r with given := name :: r.given }
  match option.effect, attached with
  | .help, none => .error .help
  | .help, some value | .flag _, some value =>
      .error (.misuse (.needlessValue name value))
  | .flag set, none =>
      if name ∈ r.given then
        .error (.misuse (.repeatedOption name))
      else
        .ok ({ marked with settings := set r.settings }, none)
  | .value set?, attached =>
      if name ∈ r.given then
        .error (.misuse (.repeatedOption name))
      else
        match attached with
        | none => .ok (marked, some ⟨name, set?⟩)
        | some value =>
            match marked.keep ⟨name, set?⟩ value with
            | .error e => .error e
            | .ok next => .ok (next, none)

end CommandReading

namespace CommandForm

/- An option by its name. -/
def named?
    (form : CommandForm α)
    (name : String) : Option (CommandOption α) :=
  form.options.find? fun o => o.name = name

/- An option by its letter. -/
def lettered?
    (form : CommandForm α)
    (letter : Char) : Option (CommandOption α) :=
  form.options.find? fun o => o.letter = some letter

/- The option takes a value. -/
def takesValue (option : CommandOption α) : Bool :=
  match option.effect with
  | .value _ => true
  | _ => false

/- Read an option by its name. -/
def readLong
    (form : CommandForm α)
    (name : String)
    (attached : Option String)
    (r : CommandReading α) :
    Except Refusal
      (CommandReading α × Option (ValueSlot α)) :=
  match form.named? name with
  | none =>
      .error (.misuse (.unknownOption (s!"--{name}")))
  | some option => r.take option attached

/- Read options by their letters. What follows the letter of
   an option with a value is that value. -/
def readLetters
    (form : CommandForm α) :
    List Char → CommandReading α →
      Except Refusal
        (CommandReading α × Option (ValueSlot α))
  | [], r => .ok (r, none)
  | c :: rest, r =>
      match form.lettered? c with
      | none => .error (.misuse (.unknownOption (s!"-{c}")))
      | some option =>
          if takesValue option then
            r.take option (attachedValue? rest)
          else
            match r.take option none with
            | .error e => .error e
            | .ok (next, _) => readLetters form rest next

/- Read arguments that are no options. -/
def readPlaces :
    List String → CommandReading α →
      Except Refusal (CommandReading α)
  | [], r => .ok r
  | text :: rest, r =>
      match r.place text with
      | .error e => .error e
      | .ok next => readPlaces rest next

/- Read arguments, the first of them into a slot that waits
   for a value. -/
def readFrom
    (form : CommandForm α) :
    List String → Option (ValueSlot α) → CommandReading α →
      Except Refusal (CommandReading α)
  | [], none, r => .ok r
  | [], some slot, _ =>
      .error (.misuse (.missingValue slot.name))
  | text :: rest, some slot, r =>
      match ArgumentWord.ofText text with
      | .plain value =>
          match r.keep slot value with
          | .error e => .error e
          | .ok next => readFrom form rest none next
      | _ => .error (.misuse (.missingValue slot.name))
  | text :: rest, none, r =>
      match ArgumentWord.ofText text with
      | .terminator => readPlaces rest r
      | .plain value =>
          match r.place value with
          | .error e => .error e
          | .ok next => readFrom form rest none next
      | .long name attached =>
          match form.readLong name attached r with
          | .error e => .error e
          | .ok (next, waiting) =>
              readFrom form rest waiting next
      | .letters letters =>
          match form.readLetters letters r with
          | .error e => .error e
          | .ok (next, waiting) =>
              readFrom form rest waiting next

/- The settings that arguments ask for. -/
def read
    (form : CommandForm α)
    (args : List String) : Except Refusal α :=
  let start : CommandReading α :=
    { settings := form.initial, given := [], free := form.places }
  match form.readFrom args none start with
  | .error e => .error e
  | .ok r => .ok r.settings

/- How an option is written. -/
def usageLine (option : CommandOption α) : String :=
  let front :=
    match option.letter with
    | some c => s!"  -{c}, "
    | none => "      "
  let value := if takesValue option then " <value>" else ""
  s!"{front}--{option.name}{value}"

/- What the command takes. -/
def usage (form : CommandForm α) : List String :=
  let places :=
    String.join (form.places.map fun slot => s!" [{slot.name}]")
  s!"Usage: {form.program} [OPTIONS]{places}" :: "" ::
    "Options:" :: form.options.map usageLine

end CommandForm

end LatencySweep
