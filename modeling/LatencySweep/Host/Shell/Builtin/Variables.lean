import LatencySweep.Host.Shell.Builtin.Basic

/-
  Builtins for variables, options and arguments.

  Key definitions include:
    * `Shell.markVariables`
    * `Shell.declareLocal`
    * `Shell.unsetNames`
    * `Shell.setOptions`
    * `Shell.variableBuiltins`
-/

namespace LatencySweep

namespace Shell

------------------------------------------------------------
-- Marks
------------------------------------------------------------

/- A variable as a command that gives it its value. -/
def shownVariable
    (front name : String)
    (value : Option String) : String :=
  match value with
  | some text => s!"{front}{name}={singleQuoted text}"
  | none => s!"{front}{name}"

/- Print the variables that pass a test, in order. -/
def listVariables
    (front : String)
    (test : Variable → Bool) : Action Nat := do
  let chosen := (← get).named.filter fun v => test v.2
  let lines := chosen.map fun (name, v) =>
    shownVariable front name v.value
  (lines.mergeSort fun a b => decide (a ≤ b)).forM putLine
  return 0

/- A mark of variables: they are given to programs, or keep
   their values. -/
inductive VariableMark where
  | exported
  | readOnly
  deriving DecidableEq

namespace VariableMark

/- A variable has the mark. -/
def isOn (mark : VariableMark) (v : Variable) : Bool :=
  match mark with
  | exported => v.exported
  | readOnly => v.readOnly

/- The variable with the mark. -/
def on (mark : VariableMark) (v : Variable) : Variable :=
  match mark with
  | exported => { v with exported := true }
  | readOnly => { v with readOnly := true }

/- The command that makes the mark. -/
def command : VariableMark → String
  | exported => "export"
  | readOnly => "readonly"

end VariableMark

/- Mark a variable, which may get a value before. -/
def markVariable
    (mark : VariableMark)
    (word : String) : Action Unit := do
  match splitAssignment? word.toList with
  | some (name, value) =>
      assign name (String.ofList value)
      modify fun s =>
        match s.known? name with
        | some v => s.putVariable name (mark.on v)
        | none => s
  | none =>
      let name := String.ofList (word.toList.takeWhile (· ≠ '='))
      unless isName name.toList do
        fail s!"{name}: bad variable name"
      modify fun s =>
        let v := (s.known? name).getD { value := none }
        s.putVariable name (mark.on v)

/- Mark variables, or list those with the mark. -/
def markVariables
    (mark : VariableMark)
    (args : List String) : Action Nat := do
  let (given, names) ← readFlags ['p'] [] args
  if names.isEmpty || hasFlag given 'p' then
    listVariables (mark.command ++ " ") mark.isOn
  else
    names.forM (markVariable mark)
    return 0

/- Give variables values of their own for the time of the
   function that is running. -/
def declareLocal (args : List String) : Action Nat := do
  if (← get).scopes.isEmpty then fail "not in a function"
  args.forM fun word => do
    let s ← get
    if word = "-" then save (.options s.options)
    else
      let name := String.ofList (word.toList.takeWhile (· ≠ '='))
      unless isName name.toList do
        fail s!"{name}: bad variable name"
      save (.variable name (s.known? name))
      match splitAssignment? word.toList with
      | some (name, value) => assign name (String.ofList value)
      | none =>
          if (s.known? name).isNone then
            modify fun s => s.putVariable name { value := none }
  return 0

------------------------------------------------------------
-- Removing
------------------------------------------------------------

/- Remove a variable. -/
def unsetVariable (name : String) : Action Unit := do
  unless isName name.toList do
    fail s!"{name}: bad variable name"
  match (← get).known? name with
  | some v =>
      if v.readOnly then fail s!"{name}: is read only"
      modify fun s => s.dropVariable name
  | none => return ()

/- Remove variables or functions. -/
def unsetNames (args : List String) : Action Nat := do
  let (given, names) ← readFlags ['v', 'f'] [] args
  let last := (given.getLast?.map Prod.fst).getD 'v'
  if last = 'f' then
    modify fun s =>
      { s with
        functions := s.functions.filter fun f =>
          !names.contains f.1 }
  else names.forM unsetVariable
  return 0

------------------------------------------------------------
-- Options and Arguments
------------------------------------------------------------

/- The options with their names. Some have no letter. -/
def optionNames : List (String × Option Char) :=
  [ ("errexit", some 'e'), ("noglob", some 'f'),
    ("ignoreeof", some 'I'), ("interactive", some 'i'),
    ("monitor", some 'm'), ("noexec", some 'n'),
    ("stdin", some 's'), ("xtrace", some 'x'),
    ("verbose", some 'v'), ("vi", some 'V'),
    ("emacs", some 'E'), ("noclobber", some 'C'),
    ("allexport", some 'a'), ("notify", some 'b'),
    ("nounset", some 'u'), ("privileged", some 'p'),
    ("nolog", none), ("debug", none) ]

/- Turn an option on or off. -/
def turnOption (on : Bool) (letter : Char) : Action Unit := do
  if optionNames.any fun o => o.2 = some letter then
    modify fun s =>
      let others := s.options.filter (· ≠ letter)
      { s with options := if on then letter :: others else others }
  else fail s!"Illegal option -{letter}"

/- Turn an option on or off that is given by name. -/
def turnNamed (on : Bool) (name : String) : Action Unit := do
  match optionNames.lookup name with
  | some (some letter) => turnOption on letter
  | some none => return ()
  | none => fail s!"Illegal option -o {name}"

/- List the options, as a table or as commands. -/
def listOptions (asTable : Bool) : Action Unit := do
  let s ← get
  let isOn (letter : Option Char) : Bool :=
    (letter.map s.hasOption).getD false
  if asTable then putLine "Current option settings"
  optionNames.forM fun (name, letter) => do
    if asTable then
      let gap := List.replicate (16 - name.length) ' '
      let state := if isOn letter then "on" else "off"
      putLine (name ++ String.ofList gap ++ state)
    else
      let sign := if isOn letter then "-" else "+"
      putLine s!"set {sign}o {name}"

/- What remains of arguments behind options: nothing, or new
   arguments of the shell. -/
inductive ArgumentsLeft where
  | unchanged
  | replaced (args : List String)

/- Turn options on and off as arguments say. -/
def readOptionWords : List String → Action ArgumentsLeft
  | [] => return .unchanged
  | word :: rest => do
      match word.toList with
      | ['-', '-'] => return .replaced rest
      | ['-'] =>
          turnOption false 'x'
          turnOption false 'v'
          return if rest.isEmpty then .unchanged
            else .replaced rest
      | sign :: c :: letters =>
          if sign ≠ '-' && sign ≠ '+' then
            return .replaced (word :: rest)
          let on := sign = '-'
          let named := (c :: letters).contains 'o'
          ((c :: letters).filter (· ≠ 'o')).forM
            (turnOption on)
          match named, rest with
          | false, rest => readOptionWords rest
          | true, [] =>
              listOptions on
              return .unchanged
          | true, name :: rest =>
              turnNamed on name
              readOptionWords rest
      | _ => return .replaced (word :: rest)

/- Turn options on and off and replace the arguments, or
   list all variables. -/
def setOptions (args : List String) : Action Nat := do
  if args.isEmpty then
    return ← listVariables "" fun v => v.value.isSome
  match ← readOptionWords args with
  | .unchanged => return 0
  | .replaced words =>
      modify fun s =>
        { s with args := words, optionPlace := (1, 0) }
      return 0

/- Drop arguments at the front. -/
def shiftArguments (args : List String) : Action Nat := do
  let count ←
    match args with
    | [] => pure 1
    | text :: _ => readNumber text
  let s ← get
  if s.args.length < count then fail "can't shift that many"
  set { s with args := s.args.drop count, optionPlace := (1, 0) }
  return 0

/- The builtins for variables, options and arguments. -/
def variableBuiltins : Builtins :=
  [ ("export",
      { special := true, assigns := true
        run := markVariables .exported }),
    ("readonly",
      { special := true, assigns := true
        run := markVariables .readOnly }),
    ("local",
      { special := true, assigns := true
        run := declareLocal }),
    ("unset", { special := true, run := unsetNames }),
    ("set", { special := true, run := setOptions }),
    ("shift", { special := true, run := shiftArguments }) ]

end Shell

end LatencySweep
