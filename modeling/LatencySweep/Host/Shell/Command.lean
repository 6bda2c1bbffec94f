/-
  Commands of the shell and the words they are made of.

  A word is a list of pieces. Plain text is subject to
  wildcards, literal text was quoted by itself, and a quoted
  piece is the content of double quotes. Redirections name
  the documents that stand in the script by number.

  Key definitions include:
    * `Shell.Piece`
    * `Shell.ParameterUse`
    * `Shell.Word`
    * `Shell.Redirect`
    * `Shell.Command`
-/

namespace LatencySweep

namespace Shell

/- When a parameter counts as missing: if it is not set, or
   also if it is empty. -/
inductive Missing where
  | unset
  | unsetOrEmpty
  deriving DecidableEq

/- At which end of a value a pattern is cut off. -/
inductive Edge where
  | front
  | back
  deriving DecidableEq

/- What a redirection does with its target. -/
inductive RedirectKind where
  | read
  | readWrite
  | replace
  | forceReplace
  | append
  deriving DecidableEq

mutual

/- A part of a word. -/
inductive Piece where
  | plain (content : List Char)
  | literal (content : List Char)
  | quoted (pieces : List Piece)
  | parameter (name : String) (use : ParameterUse)
  | output (body : Command)
  | arithmetic (pieces : List Piece)

/- What is made of the value of a parameter. -/
inductive ParameterUse where
  | value
  | length
  | orElse (missing : Missing) (word : List Piece)
  | orAssign (missing : Missing) (word : List Piece)
  | orFail (missing : Missing) (word : List Piece)
  | ifGiven (missing : Missing) (word : List Piece)
  | cut (edge : Edge) (longest : Bool) (word : List Piece)
  | malformed

/- A change of a descriptor: it leads to a file, to what
   another one leads to, or to a document. -/
inductive Redirect where
  | file
      (fd : Nat) (kind : RedirectKind) (target : List Piece)
  | duplicate (fd : Nat) (target : List Piece)
  | document (fd : Nat) (number : Nat)

/- A command. Lines are those where it starts. -/
inductive Command where
  | nothing
  | simple
      (line : Nat)
      (assignments : List (String × List Piece))
      (words : List (List Piece))
      (redirects : List Redirect)
  | pipeline (parts : List Command) (inBackground : Bool)
  | background
      (line : Nat) (body : Command)
      (redirects : List Redirect)
  | subshell
      (line : Nat) (body : Command)
      (redirects : List Redirect)
  | redirected
      (line : Nat) (body : Command)
      (redirects : List Redirect)
  | sequence (first second : Command)
  | both (first second : Command)
  | either (first second : Command)
  | negated (body : Command)
  | branch (test yes no : Command)
  | loop (whileTrue : Bool) (test body : Command)
  | forEach
      (line : Nat) (name : String)
      (words : List (List Piece)) (body : Command)
  | choice
      (line : Nat) (word : List Piece)
      (cases : List (List (List Piece) × Command))
  | definition (name : String) (body : Command)

end

/- A word of a command. -/
abbrev Word := List Piece

namespace Word

/- The text of a word in which everything is plain. -/
def plainText? : Word → Option (List Char)
  | [] => some []
  | .plain content :: rest =>
      (plainText? rest).map fun text => content ++ text
  | _ :: _ => none

/- A part of the word was quoted. -/
def hasQuotes (w : Word) : Bool :=
  w.any fun piece =>
    match piece with
    | .literal _ | .quoted _ => true
    | _ => false

/- The text of a piece whose quotes are taken off. -/
def unquotedPiece : Piece → List Char
  | .plain content | .literal content => content
  | .quoted pieces => unquotedPieces pieces
  | _ => []
where
  /- The text of pieces whose quotes are taken off. -/
  unquotedPieces : List Piece → List Char
    | [] => []
    | .plain content :: rest
    | .literal content :: rest => content ++ unquotedPieces rest
    | _ :: rest => unquotedPieces rest

/- The text of a word whose quotes are taken off. -/
def unquoted (w : Word) : List Char :=
  w.flatMap unquotedPiece

end Word

/- A character that a name starts with. -/
def startsName (c : Char) : Bool := c.isAlpha || c = '_'

/- A character of a name. -/
def inName (c : Char) : Bool := c.isAlphanum || c = '_'

/- A text is a name. -/
def isName (text : List Char) : Bool :=
  match text with
  | [] => false
  | c :: rest => startsName c && rest.all inName

/- The name in front of an equals sign, and the text behind
   the sign. -/
def splitAssignment? (text : List Char) :
    Option (String × List Char) :=
  let name := text.takeWhile inName
  match text.drop name.length with
  | '=' :: rest =>
      if isName name then some (String.ofList name, rest)
      else none
  | _ => none

/- The name that a word assigns to, and the rest of the
   word. -/
def Word.assignment? (w : Word) : Option (String × Word) :=
  match w with
  | .plain content :: rest =>
      (splitAssignment? content).map fun (name, value) =>
        (name,
          if value = [] then rest else .plain value :: rest)
  | _ => none

example : splitAssignment? "a_1=b=c".toList =
    some ("a_1", "b=c".toList) := by decide +kernel
example : splitAssignment? "1a=b".toList = none := by
  decide +kernel

end Shell

end LatencySweep
