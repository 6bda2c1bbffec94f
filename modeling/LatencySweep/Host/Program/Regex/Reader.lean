import LatencySweep.Host.Program.Regex.Basic

/-
  Reading regular expressions.

  In the basic notation brackets, braces and bars are
  special behind a backslash, in the extended notation
  without one. Both notations have the same tokens, so one
  grammar serves both.

  Key definitions include:
    * `Regex.Fault`
    * `Regex.Token`
    * `Regex.tokens`
    * `Regex.read`
    * `Regex.readFixed`
-/

namespace LatencySweep

namespace Regex

/- Why a text is no regular expression. -/
inductive Fault where
  | openedGroup
  | closedGroup
  | unclosedSet
  | unknownClass
  | fallingRange
  | loneBackslash
  | badCount
  | unclosedCount
  | badGroup
  | other
  deriving DecidableEq

/- The text of a fault. -/
def Fault.message : Fault → String
  | openedGroup => "Unmatched ( or \\("
  | closedGroup => "Unmatched ) or \\)"
  | unclosedSet =>
      "Unmatched [, [^, [:, [., or [="
  | unknownClass => "Invalid character class name"
  | fallingRange => "Invalid range end"
  | loneBackslash => "Trailing backslash"
  | badCount => "Invalid content of \\\x7b\\\x7d"
  | unclosedCount => "Unmatched \\\x7b"
  | badGroup => "Invalid back reference"
  | other => "Invalid regular expression"

------------------------------------------------------------
-- Tokens
------------------------------------------------------------

/- A token of a regular expression. -/
inductive Token where
  | single (r : Regex)
  | count (least : Nat) (most : Option Nat)
  | opening
  | closing
  | bar
  deriving DecidableEq

/- The notation of an expression. -/
inductive Dialect where
  | basic
  | extended
  deriving DecidableEq

/- A number of repetitions, and the text behind it. -/
def spanCount? (text : List Char) :
    Option ((Nat × Option Nat) × List Char) :=
  let (least, rest) := spanDigits text
  match rest with
  | ',' :: rest =>
      let (most, rest) := spanDigits rest
      if most = [] then
        some ((digitsValue least, none), rest)
      else
        some
          ((digitsValue least, some (digitsValue most)), rest)
  | rest =>
      if least = [] then none
      else
        some
          ((digitsValue least, some (digitsValue least)), rest)

/- The repetition in braces, and the text behind it. -/
def bracedCount (style : Dialect) (text : List Char) :
    Except Fault (Token × List Char) :=
  match spanCount? text with
  | none => .error .badCount
  | some ((least, most), rest) =>
      let falls := match most with
        | some m => decide (m < least)
        | none => false
      if falls then .error .badCount
      else
        match style, rest with
        | .basic, '\\' :: '\x7d' :: rest
        | .extended, '\x7d' :: rest =>
            .ok (.count least most, rest)
        | _, [] => .error .unclosedCount
        | _, _ => .error .badCount

/- What an escape of either notation stands for. -/
def escapeToken (c : Char) : Token :=
  let blanks (inverted : Bool) : CharSet :=
    { inverted, classes := ["space"] }
  let wordChars (inverted : Bool) : CharSet :=
    { inverted, ranges := [('_', '_')], classes := ["alnum"] }
  match c with
  | 'w' => .single (.set (wordChars false))
  | 'W' => .single (.set (wordChars true))
  | 's' => .single (.set (blanks false))
  | 'S' => .single (.set (blanks true))
  | 'b' => .single (.anchor .wordEdge)
  | 'B' => .single (.anchor .noWordEdge)
  | '<' => .single (.anchor .wordStart)
  | '>' => .single (.anchor .wordStop)
  | '`' => .single (.anchor .start)
  | '\'' => .single (.anchor .stop)
  | 'n' => .single (.char '\n')
  | 't' => .single (.char '\t')
  | c =>
      if '1' ≤ c ∧ c ≤ '9' then
        .single (.same (c.toNat - '0'.toNat))
      else .single (.char c)

/- A repetition by one character. -/
def countToken? (c : Char) : Option Token :=
  match c with
  | '*' => some (.count 0 none)
  | '+' => some (.count 1 none)
  | '?' => some (.count 0 (some 1))
  | _ => none

/- The token at the front of a text, and the text behind it.
   At the start of an expression there is nothing to repeat
   and stars stand for themselves. -/
def token
    (style : Dialect)
    (isStart : Bool) :
    Char → List Char → Except Fault (Token × List Char)
  | '[', rest =>
      match CharSet.span? false rest with
      | .ok (s, rest) => .ok (.single (.set s), rest)
      | .error .unclosed =>
          .error (if rest = [] then .other else .unclosedSet)
      | .error .fallingRange => .error .fallingRange
      | .error .unknownClass => .error .unknownClass
  | '.', rest => .ok (.single .anyChar, rest)
  | '\\', rest =>
      match rest with
      | [] => .error .loneBackslash
      | c :: rest =>
          if style = .extended then .ok (escapeToken c, rest)
          else if c = '(' then .ok (.opening, rest)
          else if c = ')' then .ok (.closing, rest)
          else if c = '|' then .ok (.bar, rest)
          else if c = '\x7b' then bracedCount style rest
          else if (c = '+' ∨ c = '?') ∧ !isStart then
            .ok ((countToken? c).getD .bar, rest)
          else .ok (escapeToken c, rest)
  | '^', rest =>
      if style = .extended ∨ isStart then
        .ok (.single (.anchor .start), rest)
      else .ok (.single (.char '^'), rest)
  | '$', rest =>
      let ends : Bool :=
        match rest with
        | [] | '\\' :: ')' :: _ | '\\' :: '|' :: _ => true
        | _ => decide (style = .extended)
      if ends then .ok (.single (.anchor .stop), rest)
      else .ok (.single (.char '$'), rest)
  | c, rest =>
      let plain : Token × List Char := (.single (.char c), rest)
      if c = '*' then
        if isStart then .ok plain
        else .ok (.count 0 none, rest)
      else if style = .basic then .ok plain
      else if c = '(' then .ok (.opening, rest)
      else if c = ')' then .ok (.closing, rest)
      else if c = '|' then .ok (.bar, rest)
      else if c = '\x7b' then
        match bracedCount style rest with
        | .ok result => if isStart then .ok plain else .ok result
        | .error _ => .ok plain
      else
        match countToken? c with
        | some count =>
            if isStart then .ok plain else .ok (count, rest)
        | none => .ok plain

/- There is nothing to repeat behind a token. -/
def startsAnew : Token → Bool
  | .opening | .bar => true
  | .single (.anchor .start) => true
  | _ => false

/- The tokens of a text. Each takes a character. -/
def tokens (style : Dialect) :
    Nat → Bool → List Char → Except Fault (List Token)
  | 0, _, _ => .ok []
  | _ + 1, _, [] => .ok []
  | n + 1, isStart, c :: rest => do
      let (next, rest) ← token style isStart c rest
      return next ::
        (← tokens style n (startsAnew next) rest)

------------------------------------------------------------
-- Expressions
------------------------------------------------------------

/- An expression that was read: itself, the tokens behind it
   and the number of groups so far. -/
structure Reading where
  regex : Regex
  rest : List Token
  groups : Nat

/- Repetitions behind an expression. -/
def repeatedBy (r : Regex) : List Token → Regex × List Token
  | .count least most :: rest =>
      repeatedBy (.repeated r least most) rest
  | rest => (r, rest)

mutual

/- Alternatives up to a closing bracket. -/
def alternatives :
    Nat → Nat → List Token → Except Fault Reading
  | 0, groups, ts => .ok ⟨.empty, ts, groups⟩
  | n + 1, groups, ts => do
      let first ← sequence n groups .empty ts
      match first.rest with
      | .bar :: rest =>
          let others ← alternatives n first.groups rest
          return { others with
            regex := .alt first.regex others.regex }
      | _ => return first

/- Expressions in a row, behind those that were read. -/
def sequence :
    Nat → Nat → Regex → List Token → Except Fault Reading
  | 0, groups, done, ts => .ok ⟨done, ts, groups⟩
  | n + 1, groups, done, ts => do
      match ts with
      | .single (.same number) :: rest =>
          if groups < number then .error .badGroup
          else
            let (r, rest) := repeatedBy (.same number) rest
            sequence n groups (.seq done r) rest
      | .single r :: rest =>
          let (r, rest) := repeatedBy r rest
          sequence n groups (.seq done r) rest
      | .opening :: rest =>
          let inside ← alternatives n (groups + 1) rest
          match inside.rest with
          | .closing :: rest =>
              let (r, rest) :=
                repeatedBy (.group (groups + 1) inside.regex)
                  rest
              sequence n inside.groups (.seq done r) rest
          | _ => .error .openedGroup
      | .count _ _ :: rest => sequence n groups done rest
      | ts => return ⟨done, ts, groups⟩

end

/- The expression that a text stands for. -/
def read (style : Dialect) (text : List Char) :
    Except Fault Regex := do
  let ts ← tokens style text.length true text
  let reading ← alternatives (2 * ts.length + 2) 0 ts
  match reading.rest with
  | [] => return reading.regex
  | _ => .error .closedGroup

/- The expression that matches nothing but a text. -/
def readFixed (text : List Char) : Regex :=
  text.foldr (fun c r => .seq (.char c) r) .empty

example :
    ((read .basic "a\\(b*\\)c".toList).toOption.bind
      fun r =>
        r.findFrom? false none [] "xabbcd".toList).map
        (fun m => (m.front, m.matched, m.groups)) =
      some (['x'], ['a', 'b', 'b', 'c'], [(1, ['b', 'b'])]) := by
  cbv

end Regex

end LatencySweep
