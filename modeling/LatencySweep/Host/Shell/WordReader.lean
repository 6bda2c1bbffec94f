import LatencySweep.Host.Shell.Cursor

/-
  Reading the words of a script.

  What a character means depends on the region in which it
  stands. Regions are nested: quotes may hold parameters,
  and these words with quotes again. How commands inside of
  words are read is given from outside.

  Key definitions include:
    * `Shell.Region`
    * `Shell.readPieces`
    * `Shell.readWord`
-/

namespace LatencySweep

namespace Shell

/- A part of a script in which characters have their own
   meaning. In braces inside of double quotes, double quotes
   have an inner part. -/
inductive Region where
  | word
  | marker
  | quotes
  | document
  | braces (quoted inner : Bool)
  | sum (depth : Nat)
  deriving DecidableEq

namespace Region

/- Text in the region counts as quoted. -/
def isQuoted : Region → Bool
  | word | marker => false
  | quotes | document | sum _ => true
  | braces quoted _ => quoted

/- The fault of a text that ends in the region. -/
def unfinished? : Region → Option String
  | word | marker | document => none
  | quotes => some "Unterminated quoted string"
  | braces quoted _ =>
      some
        (if quoted then "Unterminated quoted string"
        else "Missing '\x7d'")
  | sum _ => some "Missing '))'"

/- A character that can be escaped in the region. -/
def escapes (region : Region) (c : Char) : Bool :=
  match region with
  | word | marker | braces false _ => true
  | quotes => c ∈ ['\\', '$', '\x60', '"']
  | document | sum _ => c ∈ ['\\', '$', '\x60']
  | braces true _ => c ∈ ['\\', '$', '\x60', '"', '\x7d']

end Region

/- A character that ends a word. -/
def endsWord (c : Char) : Bool :=
  c ∈ [' ', '\t', '\n', ';', '&', '|', '<', '>', '(', ')']

/- A parameter with a name of one sign. -/
def isSpecialName (c : Char) : Bool :=
  c ∈ ['@', '*', '#', '?', '-', '$', '!']

/- Plain pieces in a row as one piece. -/
def joinPlain : List Piece → List Piece
  | .plain a :: rest =>
      match joinPlain rest with
      | .plain b :: others => .plain (a ++ b) :: others
      | others => .plain a :: others
  | piece :: rest => piece :: joinPlain rest
  | [] => []

------------------------------------------------------------
-- Quotes
------------------------------------------------------------

/- The text up to a single quote. -/
def readSingleQuoted : Nat → Reading (List Char)
  | 0 => refuse "Unterminated quoted string"
  | n + 1 => do
      match ← nextRaw with
      | none => refuse "Unterminated quoted string"
      | some '\'' => return []
      | some c => return c :: (← readSingleQuoted n)

/- The script between backquotes. -/
def readBackquoted (inQuotes : Bool) :
    Nat → Reading (List Char)
  | 0 => refuse "EOF in backquote substitution"
  | n + 1 => do
      match ← nextChar with
      | none => refuse "EOF in backquote substitution"
      | some '\x60' => return []
      | some '\\' =>
          match ← nextRaw with
          | none => refuse "EOF in backquote substitution"
          | some c =>
              let escaped :=
                c ∈ ['\\', '\x60', '$'] || inQuotes && c = '"'
              let rest ← readBackquoted inQuotes n
              return if escaped then c :: rest
                else '\\' :: c :: rest
      | some c => return c :: (← readBackquoted inQuotes n)

------------------------------------------------------------
-- Parameters
------------------------------------------------------------

/- What the sign behind a name says about the use of the
   value. -/
inductive UseSign where
  | value
  | word (use : Word → ParameterUse) (isPattern : Bool)
  | malformed

/- The use that a sign stands for which may follow a
   colon. -/
def wordSign? (missing : Missing) (c : Char) :
    Option UseSign :=
  match c with
  | '-' => some (.word (.orElse missing) false)
  | '=' => some (.word (.orAssign missing) false)
  | '?' => some (.word (.orFail missing) false)
  | '+' => some (.word (.ifGiven missing) false)
  | '\x7d' => some .value
  | _ => none

/- Read the sign of a pattern that is cut off. Twice the
   same sign means the longest match. -/
def readCutSign (edge : Edge) (c : Char) :
    Reading UseSign := do
  let next ← nextChar
  if next = some c then
    return .word (.cut edge true) true
  else
    giveBack next
    return .word (.cut edge false) true

/- Read the sign behind a name, which starts with the given
   character. -/
def readUseSign (c : Option Char) : Reading UseSign := do
  match c with
  | some ':' =>
      let next ← nextChar
      return ((next.bind (wordSign? .unsetOrEmpty)).getD
        .malformed)
  | some '#' => readCutSign .front '#'
  | some '%' => readCutSign .back '%'
  | c =>
      match c.bind (wordSign? .unset) with
      | some sign => return sign
      | none =>
          giveBack c
          return .malformed

/- Read the rest of a name that starts with a character. -/
def readName (c : Char) : Reading (List Char) := do
  if startsName c then return c :: (← takeChars inName)
  else return c :: (← takeChars Char.isDigit)

/- The front of a parameter in braces: its name, and the
   character behind it, or its length. -/
inductive ParameterFront where
  | name (text : List Char) (next : Option Char)
  | length (text : List Char)
  | malformed

/- Read what follows a number sign at the front of braces:
   the name whose length is meant, unless the sign is a name
   itself. -/
def readLengthFront (c : Option Char) :
    Reading ParameterFront := do
  match c with
  | none => return .malformed
  | some c =>
      if inName c then
        let text ← readName c
        match ← nextChar with
        | some '\x7d' => return .length text
        | next =>
            giveBack next
            return .malformed
      else
        let next ← nextChar
        if c ≠ '\x7d' ∧ next = some '\x7d' then
          if isSpecialName c then return .length [c]
          else
            giveBack next
            return .malformed
        else
          giveBack next
          return .name ['#'] (some c)

/- Read the front of a parameter in braces. -/
def readParameterFront : Reading ParameterFront := do
  match ← nextChar with
  | none => return .malformed
  | some c =>
      if inName c then
        let text ← readName c
        return .name text (← nextChar)
      else if c = '\x7d' then
        giveBack (some c)
        return .malformed
      else
        let next ← nextChar
        if c = '#' then readLengthFront next
        else if isSpecialName c then return .name [c] next
        else
          giveBack next
          return .malformed

------------------------------------------------------------
-- Pieces
------------------------------------------------------------

/- Read a command with its own cursor and go on behind it.
   Documents that wait for their bodies keep waiting. -/
def readInside (text : List Char) (body : Reading Command) :
    Reading Command := do
  let cursor ← get
  match body.run
      { cursor with
        rest := text, returned := none, awaited := [] } with
  | .error fault => throw fault
  | .ok (command, inner) =>
      set
        { cursor with
          documents := inner.documents
          documentCount := inner.documentCount }
      return command

/- Read a command that ends with a closing bracket. -/
def readBracketed (body : Reading Command) :
    Reading Command := do
  let cursor ← get
  set { cursor with returned := none, awaited := [] }
  let command ← body
  modify fun inner =>
    { inner with
      returned := cursor.returned
      awaited := cursor.awaited }
  return command

/- How commands inside of words are read: up to a closing
   bracket, or up to the end of the text. -/
structure CommandReaders where
  toBracket : Reading Command
  toEnd : Reading Command

/- Read the pieces of a region up to its end. The end of
   quotes, braces and sums is taken as well. Each step takes
   a character, so the first argument bounds the steps. -/
def readPieces (inside : CommandReaders) :
    Nat → Region → Reading (List Piece)
  | 0, _ => return []
  | n + 1, region => do
      let more (piece : Piece) (region : Region) :
          Reading (List Piece) := do
        return piece :: (← readPieces inside n region)
      let sum : Reading Piece := do
        return .arithmetic
          (joinPlain (← readPieces inside n (.sum 0)))
      let parameter (c : Char) : Reading Piece := do
        if c ≠ '\x7b' then
          let text ←
            if startsName c then readName c else pure [c]
          return .parameter (String.ofList text) .value
        let wordIn (isPattern : Bool) : Reading Word := do
          let quoted := region.isQuoted && !isPattern
          return joinPlain
            (← readPieces inside n (.braces quoted false))
        match ← readParameterFront with
        | .malformed =>
            let _ ← wordIn false
            return .parameter "" .malformed
        | .length text =>
            return .parameter (String.ofList text) .length
        | .name text next =>
            let name := String.ofList text
            match ← readUseSign next with
            | .value => return .parameter name .value
            | .word use isPattern =>
                return .parameter name
                  (use (← wordIn isPattern))
            | .malformed =>
                let _ ← wordIn false
                return .parameter name .malformed
      let dollar : Reading Piece := do
        match ← nextChar with
        | none => return .plain ['$']
        | some '(' =>
            let next ← nextChar
            if next = some '(' then sum
            else
              giveBack next
              return .output (← readBracketed inside.toBracket)
        | some c =>
            if c = '\x7b' ∨ inName c ∨ isSpecialName c then
              parameter c
            else
              giveBack (some c)
              return .plain ['$']
      match ← nextChar with
      | none =>
          match region.unfinished? with
          | none => return []
          | some problem => refuse problem
      | some c =>
          if c = '\\' then
            match ← nextRaw with
            | none => more (.plain ['\\']) region
            | some d =>
                if !region.escapes d then
                  more (.plain ['\\', d]) region
                else if region.isQuoted then
                  more (.plain [d]) region
                else more (.literal [d]) region
          else if c = '$' ∧ region ≠ .marker then
            more (← dollar) region
          else if c = '\x60' ∧ region ≠ .marker then
            let text ← readBackquoted region.isQuoted n
            more (.output (← readInside text inside.toEnd))
              region
          else
            match region with
            | .word | .marker | .braces false _ =>
                let inWord := region = .word || region = .marker
                if c = '\'' then
                  more (.literal (← readSingleQuoted n)) region
                else if c = '"' then
                  let pieces ← readPieces inside n .quotes
                  more (.quoted (joinPlain pieces)) region
                else if inWord && endsWord c then
                  giveBack (some c)
                  return []
                else if !inWord && c = '\x7d' then return []
                else more (.plain [c]) region
            | .quotes =>
                if c = '"' then return []
                else more (.plain [c]) region
            | .document => more (.plain [c]) region
            | .braces true inner =>
                if c = '"' then
                  readPieces inside n (.braces true (!inner))
                else if c = '\x7d' ∧ !inner then return []
                else more (.plain [c]) region
            | .sum depth =>
                if c = '(' then
                  more (.plain [c]) (.sum (depth + 1))
                else if c ≠ ')' then more (.plain [c]) region
                else if depth ≠ 0 then
                  more (.plain [c]) (.sum (depth - 1))
                else
                  let next ← nextChar
                  if next = some ')' then return []
                  else
                    giveBack next
                    more (.plain [c]) region

/- Read a word of the script. -/
def readWord
    (inside : CommandReaders)
    (region : Region) : Reading Word := do
  let n := (← get).rest.length + 1
  return joinPlain (← readPieces inside n region)

end Shell

end LatencySweep
