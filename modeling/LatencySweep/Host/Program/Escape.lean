import LatencySweep.Number.Radix

/-
  Escapes in texts that programs print.

  A backslash and a letter stand for a control, digits for
  the byte with that number. What is not an escape stays as
  it is, and some programs stop printing at an escape of
  their own.

  Key definitions include:
    * `EscapeRules`
    * `EscapeRules.resolve`
-/

namespace LatencySweep

/- Which escapes a program knows. -/
structure EscapeRules where
  letters : List (Char × Nat)
  prefixedOctal : Bool
  hexadecimal : Bool
  stops : Bool

namespace EscapeRules

/- The letters that every program knows. -/
def commonLetters : List (Char × Nat) :=
  [ ('\\', 92), ('a', 7), ('b', 8), ('f', 12), ('n', 10),
    ('r', 13), ('t', 9), ('v', 11) ]

/- The escapes of formats in the shell. -/
def shellFormat : EscapeRules :=
  { letters := commonLetters, prefixedOctal := false
    hexadecimal := false, stops := false }

/- The escapes of arguments in the shell. -/
def shellArgument : EscapeRules :=
  { shellFormat with prefixedOctal := true, stops := true }

/- The escapes of formats outside of the shell. -/
def format : EscapeRules :=
  { letters := ('e', 27) :: ('"', 34) :: commonLetters
    prefixedOctal := false, hexadecimal := true, stops := true }

/- The escapes of arguments outside of the shell. -/
def argument : EscapeRules :=
  { format with
    letters := ('e', 27) :: commonLetters
    prefixedOctal := true }

/- The character of a byte with the given number. -/
def byteChar (value : Nat) : Char :=
  Char.ofNat (value % 256)

/- The digits behind a backslash, and the text behind
   them. -/
def octal (rules : EscapeRules) (text : List Char) :
    Nat × List Char :=
  match text with
  | '0' :: rest =>
      if rules.prefixedOctal ∧ startsWithDigit 8 rest then
        spanRadixUpTo 8 3 0 rest
      else spanRadixUpTo 8 3 0 text
  | _ => spanRadixUpTo 8 3 0 text

/- The character of the escape behind a backslash, and the
   text behind the escape. -/
def escape?
    (rules : EscapeRules)
    (text : List Char) : Option (Char × List Char) :=
  match text with
  | [] => none
  | c :: rest =>
      match rules.letters.find? fun l => l.1 = c with
      | some letter => some (byteChar letter.2, rest)
      | none =>
          if startsWithDigit 8 text then
            let (value, rest) := rules.octal text
            some (byteChar value, rest)
          else if c = 'x' ∧ rules.hexadecimal ∧
              startsWithDigit 16 rest then
            let (value, rest) := spanRadixUpTo 16 2 0 rest
            some (byteChar value, rest)
          else none

/- The text with its escapes resolved, and whether printing
   stops at its end. Each step takes a character, so the
   first argument bounds the steps. -/
def resolveFrom
    (rules : EscapeRules) :
    Nat → List Char → List Char × Bool
  | 0, _ => ([], false)
  | _ + 1, [] => ([], false)
  | n + 1, c :: rest =>
      if c ≠ '\\' then
        let (output, stopped) := resolveFrom rules n rest
        (c :: output, stopped)
      else if rules.stops ∧ rest.head? = some 'c' then
        ([], true)
      else
        match rules.escape? rest with
        | some (d, rest) =>
            let (output, stopped) := resolveFrom rules n rest
            (d :: output, stopped)
        | none =>
            let (output, stopped) := resolveFrom rules n rest
            ('\\' :: output, stopped)

/- The text with its escapes resolved, and whether printing
   stops at its end. -/
def resolve
    (rules : EscapeRules)
    (text : String) : String × Bool :=
  let (output, stopped) :=
    rules.resolveFrom text.length text.toList
  (String.ofList output, stopped)

example : resolve shellArgument "a\\tb\\0101\\q" =
    ("a\tbA\\q", false) := by decide +kernel
example : resolve argument "x\\x41\\cy" = ("xA", true) := by
  decide +kernel

end EscapeRules

end LatencySweep
