import LatencySweep.Host.Shell.Token

/-
  The grammar of scripts.

  A script is read one complete command at a time, so that
  the commands in front of a fault are carried out. Commands
  are nested; the readers of one level use those of the next
  one, and the length of the script bounds the levels.

  Key definitions include:
    * `Shell.Readers`
    * `Shell.readList`
    * `Shell.readCommand`
    * `Shell.readComplete`
-/

namespace LatencySweep

namespace Shell

/- What a list of commands belongs to: the script, where a
   line end closes it, the inside of a command, which has at
   least one command, or brackets that may be empty. -/
inductive ListKind where
  | script
  | inner
  | optional
  deriving DecidableEq

/- The readers of one level. -/
structure Readers where
  list : ListKind → Reading (Option Command)
  command : Reading Command

namespace Readers

/- The commands of a list, which may be empty. -/
def body (r : Readers) (kind : ListKind) : Reading Command := do
  return (← r.list kind).getD .nothing

/- How commands inside of words are read. -/
def inside (r : Readers) : CommandReaders where
  toEnd := r.body .optional
  toBracket := do
    let command ← r.body .optional
    let t := (← get).returned.getD .ending
    unless t.isOperator ")" do
      unexpected t (some (.operator ")"))
    return command

/- Read a token. -/
def token (r : Readers) (mode : TokenMode := {}) :
    Reading Token :=
  readToken r.inside mode

/- Read a token that may be a keyword. -/
def keywordToken (r : Readers) : Reading Token :=
  r.token { findsKeywords := true }

/- Read a token behind line ends that may be a keyword. -/
def nextKeywordToken (r : Readers) : Reading Token :=
  r.token { findsKeywords := true, skipsNewlines := true }

/- Read a keyword that has to follow. -/
def expectKeyword (r : Readers) (text : String) :
    Reading Unit := do
  let t ← r.keywordToken
  if t.isKeyword text then return ()
  else unexpected t (some (.keyword text))

/- Read an operator that has to follow. -/
def expectOperator (r : Readers) (text : String) :
    Reading Unit := do
  let t ← r.token
  if t.isOperator text then return ()
  else unexpected t (some (.operator text))

------------------------------------------------------------
-- Redirections
------------------------------------------------------------

/- Read redirections. Each takes a token, so the last
   argument bounds their number. -/
def redirects (r : Readers) : Nat → Reading (List Redirect)
  | 0 => return []
  | n + 1 => do
      match ← r.keywordToken with
      | .redirect fd sign =>
          let first ← readRedirect r.inside fd sign
          return first :: (← redirects r n)
      | t =>
          giveBackToken t
          return []

/- Read the redirections behind a command. -/
def redirectsBehind (r : Readers) : Reading (List Redirect) := do
  r.redirects ((← get).rest.length + 2)

------------------------------------------------------------
-- Simple Commands
------------------------------------------------------------

/- A simple command as far as it was read. -/
structure SimpleParts where
  line : Nat
  assignments : List (String × Word) := []
  words : List Word := []
  redirects : List Redirect := []

/- The simple command of some parts. -/
def SimpleParts.command (p : SimpleParts) : Command :=
  .simple p.line p.assignments p.words p.redirects

/- Names that no function may have. -/
def specialNames : List String :=
  [ ".", ":", "break", "continue", "eval", "exec", "exit",
    "export", "local", "readonly", "return", "set", "shift",
    "times", "trap", "unset" ]

/- Read the definition of a function behind the opening
   bracket. -/
def definition (r : Readers) (name : Word) :
    Reading Command := do
  r.expectOperator ")"
  match name.plainText? with
  | none => refuse "Bad function name"
  | some text =>
      if isName text ∧ String.ofList text ∉ specialNames then
        let t ← r.nextKeywordToken
        giveBackToken t
        return .definition (String.ofList text) (← r.command)
      else refuse "Bad function name"

/- Read the parts of a simple command. -/
def simpleFrom (r : Readers) :
    Nat → SimpleParts → Reading Command
  | 0, p => return p.command
  | n + 1, p => do
      match ← r.token with
      | .word w =>
          match p.words, w.assignment? with
          | [], some assignment =>
              simpleFrom r n
                { p with
                  assignments := p.assignments ++ [assignment] }
          | words, _ =>
              simpleFrom r n { p with words := words ++ [w] }
      | .redirect fd sign =>
          let redirect ← readRedirect r.inside fd sign
          simpleFrom r n
            { p with redirects := p.redirects ++ [redirect] }
      | t =>
          match t.isOperator "(", p.words, p.assignments,
              p.redirects with
          | true, [name], [], [] => r.definition name
          | _, _, _, _ =>
              giveBackToken t
              return p.command

/- Read a simple command. -/
def simple (r : Readers) : Reading Command := do
  let cursor ← get
  r.simpleFrom (cursor.rest.length + 2) { line := cursor.line }

------------------------------------------------------------
-- Branches and Loops
------------------------------------------------------------

/- Read the branches behind a condition. Each takes a
   keyword, so the last argument bounds their number. -/
def branches (r : Readers) : Nat → Reading Command
  | 0 => return .nothing
  | n + 1 => do
      let test ← r.body .inner
      r.expectKeyword "then"
      let yes ← r.body .inner
      let t ← r.keywordToken
      if t.isKeyword "elif" then
        return .branch test yes (← branches r n)
      else if t.isKeyword "else" then
        return .branch test yes (← r.body .inner)
      else
        giveBackToken t
        return .branch test yes .nothing

/- Read the test and the body of a loop. -/
def loop (r : Readers) (whileTrue : Bool) : Reading Command := do
  let test ← r.body .inner
  r.expectKeyword "do"
  return .loop whileTrue test (← r.body .inner)

/- Read words up to another token. -/
def wordsUpTo (r : Readers) :
    Nat → Reading (List Word × Token)
  | 0 => return ([], .ending)
  | n + 1 => do
      match ← r.token with
      | .word w =>
          let (others, t) ← wordsUpTo r n
          return (w :: others, t)
      | t => return ([], t)

/- All arguments, each as a word. -/
def allArguments : Word :=
  [.quoted [.parameter "@" .value]]

/- Read the words that a loop goes through. -/
def loopWords (r : Readers) : Reading (List Word) := do
  let t ← r.nextKeywordToken
  if t.isKeyword "in" then
    let (words, t) ← r.wordsUpTo ((← get).rest.length + 2)
    match t with
    | .newline | .operator ";" => return words
    | t => unexpected t
  else
    unless t.isOperator ";" do giveBackToken t
    return [allArguments]

/- Read a loop over words. -/
def forEach (r : Readers) (line : Nat) : Reading Command := do
  let name? : Option (List Char) :=
    match ← r.token with
    | .word w => w.plainText?.filter isName
    | _ => none
  match name? with
  | none => refuse "Bad for loop variable"
  | some name =>
      let words ← r.loopWords
      let t ← r.nextKeywordToken
      if !t.isKeyword "do" then
        unexpected t (some (.keyword "do"))
      return .forEach line (String.ofList name) words
        (← r.body .inner)

------------------------------------------------------------
-- Choices
------------------------------------------------------------

/- The word of a token that stands for a pattern. -/
def patternOf : Token → Word
  | .word w => w
  | .keyword text => [.plain text.toList]
  | _ => []

/- Read the patterns of a case, the first of which was
   read. -/
def patterns (r : Readers) :
    Nat → Token → Reading (List Word)
  | 0, _ => return []
  | n + 1, first => do
      let t ← r.token
      if t.isOperator "|" then
        return patternOf first ::
          (← patterns r n (← r.token))
      else if t.isOperator ")" then
        return [patternOf first]
      else unexpected t (some (.operator ")"))

/- Read the cases of a choice up to its end. -/
def casesFrom (r : Readers) :
    Nat → Reading (List (List Word × Command))
  | 0 => return []
  | n + 1 => do
      let t ← r.nextKeywordToken
      if t.isKeyword "esac" then return []
      let first ← if t.isOperator "(" then r.token else pure t
      let patterns ← r.patterns ((← get).rest.length + 2) first
      let body ← r.body .optional
      let t ← r.nextKeywordToken
      if t.isKeyword "esac" then return [(patterns, body)]
      else if t.isOperator ";;" then
        return (patterns, body) :: (← casesFrom r n)
      else unexpected t (some (.operator ";;"))

/- Read a choice between cases. -/
def choice (r : Readers) (line : Nat) : Reading Command := do
  match ← r.token with
  | .word w =>
      let t ← r.nextKeywordToken
      if !t.isKeyword "in" then
        unexpected t (some (.keyword "in"))
      return .choice line w
        (← r.casesFrom ((← get).rest.length + 2))
  | t => unexpected t (some (.word []))

------------------------------------------------------------
-- Commands
------------------------------------------------------------

/- A command with the redirections behind it. -/
def withRedirects
    (r : Readers)
    (line : Nat)
    (command : Command) : Reading Command := do
  match ← r.redirectsBehind, command with
  | [], command => return command
  | redirects, .subshell line body _ =>
      return .subshell line body redirects
  | redirects, command =>
      return .redirected line command redirects

/- Read a command. -/
def anyCommand (r : Readers) : Reading Command := do
  let line := (← get).line
  let t ← r.keywordToken
  let closed (command : Command) (keyword : String) :
      Reading Command := do
    r.expectKeyword keyword
    r.withRedirects line command
  match t with
  | .keyword "if" => do
      let n := (← get).rest.length + 2
      closed (← r.branches n) "fi"
  | .keyword "while" => closed (← r.loop true) "done"
  | .keyword "until" => closed (← r.loop false) "done"
  | .keyword "for" => closed (← r.forEach line) "done"
  | .keyword "case" =>
      r.withRedirects line (← r.choice line)
  | .keyword "\x7b" => closed (← r.body .inner) "\x7d"
  | .operator "(" => do
      let body ← r.body .inner
      r.expectOperator ")"
      r.withRedirects line (.subshell line body [])
  | .word _ | .redirect .. => do
      giveBackToken t
      r.simple
  | t => unexpected t

/- Read the commands behind the first one of a pipeline. -/
def pipelineFrom (r : Readers) : Nat → Reading (List Command)
  | 0 => return []
  | n + 1 => do
      let t ← r.token
      if t.isOperator "|" then
        giveBackToken (← r.nextKeywordToken)
        let command ← anyCommand r
        return command :: (← pipelineFrom r n)
      else
        giveBackToken t
        return []

/- Read a pipeline, which may be negated. -/
def pipeline (r : Readers) : Reading Command := do
  let t ← r.keywordToken
  let negates := t.isKeyword "!"
  unless negates do giveBackToken t
  let first ← r.anyCommand
  let others ← r.pipelineFrom ((← get).rest.length + 2)
  let whole : Command :=
    if others.isEmpty then first
    else .pipeline (first :: others) false
  return if negates then .negated whole else whole

/- Read pipelines that depend on one another. -/
def chainFrom (r : Readers) :
    Nat → Command → Reading Command
  | 0, first => return first
  | n + 1, first => do
      let t ← r.token
      let isAnd := t.isOperator "&&"
      if isAnd || t.isOperator "||" then
        giveBackToken (← r.nextKeywordToken)
        let second ← r.pipeline
        chainFrom r n
          (if isAnd then .both first second
          else .either first second)
      else
        giveBackToken t
        return first

/- Read a chain of pipelines. -/
def chain (r : Readers) : Reading Command := do
  let first ← r.pipeline
  r.chainFrom ((← get).rest.length + 2) first

/- A command that runs in the background. -/
def inBackground (line : Nat) : Command → Command
  | .pipeline parts _ => .pipeline parts true
  | .redirected line body redirects =>
      .background line body redirects
  | command => .background line command []

/- A token in front of which a list of commands ends. -/
def endsList (t : Token) : Bool :=
  match t with
  | .ending => true
  | .operator text => text ∈ [")", ";;"]
  | .keyword text =>
      text ∈ ["do", "done", "elif", "else", "esac", "fi",
        "then", "\x7d"]
  | _ => false

/- A command behind others. -/
def behind : Option Command → Command → Command
  | none, command => command
  | some first, command => .sequence first command

/- Read commands behind those that were read. -/
def listFrom (r : Readers) (kind : ListKind) :
    Nat → Option Command → Reading (Option Command)
  | 0, done => return done
  | n + 1, done => do
      let t ← r.token
        { findsKeywords := true
          skipsNewlines := kind ≠ .script }
      let mayEnd := kind = .optional ||
        kind = .inner && done.isSome
      match t with
      | .newline =>
          readDocuments r.inside
          return some (done.getD .nothing)
      | .ending =>
          readDocuments r.inside
          giveBackToken .ending
          return if kind = .script then done
            else some (done.getD .nothing)
      | t =>
          giveBackToken t
          if mayEnd && endsList t then return done
          let line := (← get).line
          let command ← r.chain
          let t ← r.token
          let command :=
            if t.isOperator "&" then inBackground line command
            else command
          let done := some (behind done command)
          match t with
          | .ending =>
              readDocuments r.inside
              giveBackToken .ending
              return done
          | .newline =>
              giveBackToken t
              listFrom r kind n done
          | .operator "&" | .operator ";" =>
              listFrom r kind n done
          | t =>
              if kind = .script then unexpected t
              giveBackToken t
              return done

/- The readers of a level that has a number of levels below
   it. -/
def ofDepth : Nat → Readers
  | 0 =>
      { list := fun _ => refuse "Too many levels"
        command := refuse "Too many levels" }
  | n + 1 =>
      let r := ofDepth n
      { list := fun kind => do
          r.listFrom kind ((← get).rest.length + 2) none
        command := r.anyCommand }

end Readers

------------------------------------------------------------
-- Scripts
------------------------------------------------------------

/- The next complete command of a script, and whether the
   script ends behind it. At the end there is none. -/
def readComplete : Reading (Option Command × Bool) := do
  let cursor ← get
  set { cursor with returned := none }
  let readers := Readers.ofDepth (cursor.rest.length + 2)
  let command ← readers.list .script
  let atEnd :=
    match (← get).returned with
    | some .ending => true
    | _ => false
  return (command, atEnd)

end Shell

end LatencySweep
