import LatencySweep.Number.Radix

/-
  Classes of characters and sets of them in brackets.

  A set holds ranges and named classes, or everything
  besides them.

  Key definitions include:
    * `charClass?`
    * `CharSet`
    * `CharSet.span?`
-/

namespace LatencySweep

/- A class of characters under a name. -/
def charClass? (name : String) : Option (Char → Bool) :=
  let isPunctuation (c : Char) : Bool :=
    33 ≤ c.toNat && c.toNat < 127 && !c.isAlphanum
  match name with
  | "alnum" => some Char.isAlphanum
  | "alpha" => some Char.isAlpha
  | "digit" => some Char.isDigit
  | "upper" => some Char.isUpper
  | "lower" => some Char.isLower
  | "space" => some isSpaceOrControl
  | "blank" => some fun c => c = ' ' || c = '\t'
  | "punct" => some isPunctuation
  | "cntrl" => some fun c => c.toNat < 32 || c.toNat = 127
  | "graph" => some fun c => 32 < c.toNat && c.toNat < 127
  | "print" => some fun c => 32 ≤ c.toNat && c.toNat < 127
  | "xdigit" => some fun c => (radixValue? 16 c).isSome
  | _ => none

/- A set of characters. -/
structure CharSet where
  inverted : Bool := false
  ranges : List (Char × Char) := []
  classes : List String := []
  deriving DecidableEq

namespace CharSet

/- The set with one more range. -/
def addRange (s : CharSet) (first last : Char) : CharSet :=
  { s with ranges := s.ranges ++ [(first, last)] }

/- The set with one more class. -/
def addClass (s : CharSet) (name : String) : CharSet :=
  { s with classes := s.classes ++ [name] }

/- A character is in a set. -/
def has (s : CharSet) (c : Char) : Bool :=
  let inRange (range : Char × Char) : Bool :=
    range.1 ≤ c && c ≤ range.2
  let inClass (name : String) : Bool :=
    match charClass? name with
    | some test => test c
    | none => false
  (s.ranges.any inRange || s.classes.any inClass) != s.inverted

/- Why no set can be read. -/
inductive Fault where
  | unclosed
  | fallingRange
  | unknownClass
  deriving DecidableEq

/- A character at the front of a text. Where a backslash is
   an escape, the character behind it is meant. -/
def member? (escapes : Bool) (text : List Char) :
    Option (Char × List Char) :=
  match text with
  | [] => none
  | '\\' :: c :: rest =>
      if escapes then some (c, rest) else some ('\\', c :: rest)
  | c :: rest => some (c, rest)

/- Read the members of a set up to the closing bracket. A
   bracket at the front is a member. Where a backslash is an
   escape, no set is faulty: a falling range is empty and
   an unknown class is a row of members. -/
def spanMembers (escapes : Bool) :
    Nat → Bool → CharSet → List Char →
      Except Fault (CharSet × List Char)
  | 0, _, _, _ => .error .unclosed
  | n + 1, isFirst, s, text =>
      match text with
      | [] => .error .unclosed
      | '[' :: ':' :: rest =>
          let name := rest.takeWhile (· ≠ ':')
          match rest.drop name.length with
          | ':' :: ']' :: behind =>
              let name := String.ofList name
              if (charClass? name).isSome then
                spanMembers escapes n false (s.addClass name)
                  behind
              else if escapes then
                spanMembers escapes n false
                  (s.addRange '[' '[') (':' :: rest)
              else .error .unknownClass
          | _ =>
              spanMembers escapes n false
                (s.addRange '[' '[') (':' :: rest)
      | text =>
          match text, isFirst with
          | ']' :: rest, false => .ok (s, rest)
          | text, _ =>
              match member? escapes text with
              | none => .error .unclosed
              | some (first, '-' :: last :: rest) =>
                  if last = ']' then
                    spanMembers escapes n false
                      (s.addRange first first)
                      ('-' :: last :: rest)
                  else
                    match member? escapes (last :: rest) with
                    | none => .error .unclosed
                    | some (last, rest) =>
                        if last < first && !escapes then
                          .error .fallingRange
                        else
                          spanMembers escapes n false
                            (s.addRange first last) rest
              | some (c, rest) =>
                  spanMembers escapes n false (s.addRange c c)
                    rest

/- The set whose text starts behind the opening bracket, and
   the text behind it. A sign at the front inverts it. -/
def span? (escapes : Bool) (text : List Char) :
    Except Fault (CharSet × List Char) :=
  let sign : Char := if escapes then '!' else '^'
  let n := text.length + 1
  if text.head? = some sign then
    spanMembers escapes n true { inverted := true } text.tail
  else spanMembers escapes n true {} text

end CharSet

end LatencySweep
