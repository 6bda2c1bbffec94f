import LatencySweep.Host.Shell.Expansion

/-
  Commands that the shell itself carries out.

  The failure of a special builtin ends the shell. Some
  builtins take assignments as arguments, which are expanded
  like assignments.

  Key definitions include:
    * `Shell.Builtin`
    * `Shell.readFlags`
    * `Shell.readNumber`
-/

namespace LatencySweep

namespace Shell

/- A builtin. The action returns the status. -/
structure Builtin where
  special : Bool := false
  assigns : Bool := false
  run : List String → Action Nat

/- Builtins by their names. -/
abbrev Builtins := List (String × Builtin)

------------------------------------------------------------
-- Arguments
------------------------------------------------------------

/- Read the letters of an option word. The letter that waits
   for a value is returned. -/
def readFlagLetters (flags valued : List Char) :
    List Char →
      Action (List (Char × String) × Option Char)
  | [] => return ([], none)
  | c :: rest => do
      if valued.contains c then
        if rest.isEmpty then return ([], some c)
        else return ([(c, String.ofList rest)], none)
      else if flags.contains c then
        let (others, waiting) ←
          readFlagLetters flags valued rest
        return ((c, "") :: others, waiting)
      else fail s!"Illegal option -{c}"

/- The options in front of arguments, and the arguments
   behind them. -/
def readFlags (flags valued : List Char) :
    List String →
      Action (List (Char × String) × List String)
  | [] => return ([], [])
  | word :: rest => do
      match word.toList with
      | ['-', '-'] => return ([], rest)
      | '-' :: c :: letters =>
          let (given, waiting) ←
            readFlagLetters flags valued (c :: letters)
          match waiting, rest with
          | none, rest =>
              let (others, rest) ← readFlags flags valued rest
              return (given ++ others, rest)
          | some w, [] => fail s!"No arg for -{w} option"
          | some w, value :: rest =>
              let (others, rest) ← readFlags flags valued rest
              return (given ++ (w, value) :: others, rest)
      | _ => return ([], word :: rest)

/- An option was given. -/
def hasFlag (given : List (Char × String)) (c : Char) : Bool :=
  given.any fun g => g.1 = c

/- The number that an argument stands for. -/
def readNumber (text : String) : Action Nat := do
  let cs := text.toList
  if !cs.isEmpty && cs.all Char.isDigit then
    return digitsValue cs
  else fail s!"Illegal number: {text}"

/- A text in single quotes, as the shell reads it. -/
def singleQuoted (text : String) : String :=
  let pieces := text.toList.splitOn '\''
  let quote (cs : List Char) : String :=
    "'" ++ String.ofList cs ++ "'"
  String.intercalate "\"'\"" (pieces.map quote)

example : singleQuoted "it's" = "'it'\"'\"'s'" := by
  decide +kernel

end Shell

end LatencySweep
