import LatencySweep.Host.Shell.Command

/-
  The place up to which a script was read.

  A reading takes characters off the rest of a script. Lines
  are counted, and a backslash at the end of a line joins it
  with the next one. A token that was read can be given
  back, to be read again.

  Key definitions include:
    * `Shell.Fault`
    * `Shell.Token`
    * `Shell.Cursor`
    * `Shell.Reading`
    * `Shell.nextChar`
-/

namespace LatencySweep

namespace Shell

------------------------------------------------------------
-- Tokens
------------------------------------------------------------

/- Where and why a script cannot be read. -/
structure Fault where
  line : Nat
  problem : String

/- What stands in front of the target of a redirection. -/
inductive RedirectSign where
  | file (kind : RedirectKind)
  | duplicate
  | document (stripsTabs : Bool)
  deriving DecidableEq

/- A token of a script. -/
inductive Token where
  | word (w : Word)
  | redirect (fd : Nat) (sign : RedirectSign)
  | keyword (text : String)
  | operator (text : String)
  | newline
  | ending

/- The token as shown in messages. -/
def Token.shown : Token → String
  | word _ => "word"
  | redirect .. => "redirection"
  | keyword text | operator text => s!"\"{text}\""
  | newline => "newline"
  | ending => "end of file"

/- The token is the operator with a text. -/
def Token.isOperator (t : Token) (text : String) : Bool :=
  match t with
  | operator other => other = text
  | _ => false

/- The token is the keyword with a text. -/
def Token.isKeyword (t : Token) (text : String) : Bool :=
  match t with
  | keyword other => other = text
  | _ => false

------------------------------------------------------------
-- Cursors
------------------------------------------------------------

/- A document whose body follows the current line. -/
structure Awaited where
  number : Nat
  marker : List Char
  expands : Bool
  stripsTabs : Bool

/- How far a script was read. -/
structure Cursor where
  rest : List Char
  line : Nat := 1
  returned : Option Token := none
  awaited : List Awaited := []
  documents : List (Nat × Word) := []
  documentCount : Nat := 0

/- A step that reads a part of a script. -/
abbrev Reading := StateT Cursor (Except Fault)

/- Stop because of a fault at the current place. -/
def refuse {α : Type} (problem : String) : Reading α := do
  throw { line := (← get).line, problem }

/- Drop lines that are joined with the next one at the
   front of a text, and count them. -/
def joinLines : List Char → List Char × Nat
  | '\\' :: '\n' :: rest =>
      let (text, count) := joinLines rest
      (text, count + 1)
  | text => (text, 0)

/- The next character as it stands in the script. -/
def nextRaw : Reading (Option Char) := do
  let cursor ← get
  match cursor.rest with
  | [] => return none
  | c :: rest =>
      let line :=
        if c = '\n' then cursor.line + 1 else cursor.line
      set { cursor with rest, line }
      return some c

/- The next character behind joined lines. -/
def nextChar : Reading (Option Char) := do
  let cursor ← get
  let (rest, joined) := joinLines cursor.rest
  set { cursor with rest, line := cursor.line + joined }
  nextRaw

/- Give back a character that was read. -/
def giveBack (c : Option Char) : Reading Unit :=
  modify fun cursor =>
    match c with
    | none => cursor
    | some c =>
        { cursor with
          rest := c :: cursor.rest
          line :=
            if c = '\n' then cursor.line - 1
            else cursor.line }

/- Take characters as long as they pass a test. Each step
   takes one, so the first argument bounds the steps. -/
def takeCharsUpTo (test : Char → Bool) :
    Nat → Reading (List Char)
  | 0 => return []
  | n + 1 => do
      match ← nextChar with
      | none => return []
      | some c =>
          if test c then
            return c :: (← takeCharsUpTo test n)
          else
            giveBack (some c)
            return []

/- Take characters as long as they pass a test. -/
def takeChars (test : Char → Bool) : Reading (List Char) := do
  takeCharsUpTo test (← get).rest.length

/- Give back a token, to be read again. -/
def giveBackToken (t : Token) : Reading Unit :=
  modify fun cursor => { cursor with returned := some t }

end Shell

end LatencySweep
