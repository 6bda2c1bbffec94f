import LatencySweep.Host.Shell.WordReader

/-
  The tokens of a script.

  Words are told from operators by their first character. A
  digit in front of a redirection belongs to it. The bodies
  of documents follow the line on which they are announced.

  Key definitions include:
    * `Shell.keywords`
    * `Shell.readToken`
    * `Shell.readRedirect`
-/

namespace LatencySweep

namespace Shell

------------------------------------------------------------
-- Documents
------------------------------------------------------------

/- A line ends with a backslash that is not escaped. -/
def goesOn (line : List Char) : Bool :=
  (line.reverse.takeWhile (· = '\\')).length % 2 = 1

/- The lines of a document up to its marker, and the lines
   behind that. A line that is joined with the one before it
   is no marker. -/
def splitDocument (doc : Awaited) :
    Bool → List (List Char) →
      List (List Char) × List (List Char)
  | _, [] => ([], [])
  | joined, line :: rest =>
      let line :=
        if doc.stripsTabs then line.dropWhile (· = '\t')
        else line
      if line = doc.marker && !joined then ([], rest)
      else
        let (body, behind) :=
          splitDocument doc (doc.expands && goesOn line) rest
        (line :: body, behind)

/- Read the body of a document that starts at the current
   place. -/
def readDocument
    (inside : CommandReaders)
    (doc : Awaited) : Reading Unit := do
  let cursor ← get
  let lines := cursor.rest.splitOn '\n'
  let (body, behind) := splitDocument doc false lines
  let text := ['\n'].intercalate body
  let text :=
    if behind = [] ∧ body.length = lines.length then text
    else if body = [] then []
    else text ++ ['\n']
  let content : Word ←
    if doc.expands then
      match (readWord inside .document).run
          { cursor with rest := text } with
      | .error fault => throw fault
      | .ok (content, inner) =>
          modify fun c =>
            { c with
              documents := inner.documents
              documentCount := inner.documentCount }
          pure content
    else pure [.literal text]
  modify fun c =>
    { c with
      rest := ['\n'].intercalate behind
      line := c.line + (lines.length - behind.length)
      documents := (doc.number, content) :: c.documents }

/- Read the bodies of all documents that were announced. -/
def readDocuments (inside : CommandReaders) :
    Reading Unit := do
  let awaited := (← get).awaited
  modify fun cursor => { cursor with awaited := [] }
  awaited.forM (readDocument inside)

------------------------------------------------------------
-- Tokens
------------------------------------------------------------

/- Words with a meaning of their own. -/
def keywords : List String :=
  [ "!", "case", "do", "done", "elif", "else", "esac", "fi",
    "for", "if", "in", "then", "until", "while", "\x7b",
    "\x7d" ]

/- How a token is read. -/
structure TokenMode where
  skipsNewlines : Bool := false
  findsKeywords : Bool := false
  region : Region := .word

/- The sign of a redirection that starts with a character,
   and the descriptor that it changes by itself. -/
def readRedirectSign (c : Char) :
    Reading (Nat × RedirectSign) := do
  let next ← nextChar
  if c = '>' then
    match next with
    | some '>' => return (1, .file .append)
    | some '|' => return (1, .file .forceReplace)
    | some '&' => return (1, .duplicate)
    | next =>
        giveBack next
        return (1, .file .replace)
  else
    match next with
    | some '<' =>
        let third ← nextChar
        if third = some '-' then return (0, .document true)
        else
          giveBack third
          return (0, .document false)
    | some '&' => return (0, .duplicate)
    | some '>' => return (0, .file .readWrite)
    | next =>
        giveBack next
        return (0, .file .read)

/- An operator that may be doubled. -/
def readOperator (c : Char) : Reading Token := do
  let next ← nextChar
  if next = some c then
    return .operator (String.ofList [c, c])
  else
    giveBack next
    return .operator (String.ofList [c])

/- A word, or the redirection whose descriptor the word
   names. -/
def readWordToken
    (inside : CommandReaders)
    (region : Region) : Reading Token := do
  let w ← readWord inside region
  match w with
  | [.plain [d]] =>
      let next ← nextChar
      if d.isDigit ∧ (next = some '<' ∨ next = some '>') then
        let (_, sign) ← readRedirectSign (next.getD '<')
        return .redirect (d.toNat - '0'.toNat) sign
      else
        giveBack next
        return .word w
  | w => return .word w

/- The next token of the script itself. Blanks and comments
   are skipped; each step takes a character, so the last
   argument bounds the steps. -/
def scanToken
    (inside : CommandReaders)
    (region : Region) : Nat → Reading Token
  | 0 => return .ending
  | n + 1 => do
      match ← nextChar with
      | none => return .ending
      | some c =>
          if c = ' ' ∨ c = '\t' then scanToken inside region n
          else if c = '#' then
            modify fun cursor =>
              { cursor with
                rest := cursor.rest.dropWhile (· ≠ '\n') }
            scanToken inside region n
          else if c = '\n' then return .newline
          else if c = '&' ∨ c = '|' ∨ c = ';' then
            readOperator c
          else if c = '(' ∨ c = ')' then
            return .operator (String.ofList [c])
          else if c = '<' ∨ c = '>' then
            let (fd, sign) ← readRedirectSign c
            return .redirect fd sign
          else
            giveBack (some c)
            readWordToken inside region

/- A token that was given back, or the next one. -/
def takeToken
    (inside : CommandReaders)
    (region : Region) : Reading Token := do
  let cursor ← get
  match cursor.returned with
  | some t =>
      set { cursor with returned := none }
      return t
  | none => scanToken inside region (cursor.rest.length + 1)

/- Skip line ends in front of a token. -/
def skipNewlines
    (inside : CommandReaders)
    (region : Region) : Nat → Token → Reading Token
  | n + 1, .newline => do
      readDocuments inside
      skipNewlines inside region n (← takeToken inside region)
  | _, t => return t

/- A word as the keyword that it may be. -/
def keywordOf (t : Token) : Token :=
  match t with
  | .word w =>
      match w.plainText? with
      | some text =>
          let text := String.ofList text
          if text ∈ keywords then .keyword text else t
      | none => t
  | t => t

/- Read the next token. -/
def readToken
    (inside : CommandReaders)
    (mode : TokenMode) : Reading Token := do
  let first ← takeToken inside mode.region
  let t ←
    if mode.skipsNewlines then do
      let n := (← get).rest.length + 1
      skipNewlines inside mode.region n first
    else pure first
  return if mode.findsKeywords then keywordOf t else t

/- Refuse a token, perhaps because another one is
   expected. -/
def unexpected {α : Type}
    (t : Token)
    (expected : Option Token := none) : Reading α :=
  match expected with
  | none => refuse s!"{t.shown} unexpected"
  | some other =>
      refuse
        s!"{t.shown} unexpected (expecting {other.shown})"

------------------------------------------------------------
-- Redirections
------------------------------------------------------------

/- Read the target of a redirection. -/
def readRedirect
    (inside : CommandReaders)
    (fd : Nat)
    (sign : RedirectSign) : Reading Redirect := do
  let region : Region :=
    match sign with
    | .document _ => .marker
    | _ => .word
  match ← readToken inside { region } with
  | .word w =>
      match sign with
      | .file kind => return .file fd kind w
      | .duplicate => return .duplicate fd w
      | .document stripsTabs =>
          let cursor ← get
          let number := cursor.documentCount
          let doc : Awaited :=
            { number, marker := w.unquoted
              expands := !w.hasQuotes, stripsTabs }
          set
            { cursor with
              awaited := cursor.awaited ++ [doc]
              documentCount := number + 1 }
          return .document fd number
  | t => unexpected t

end Shell

end LatencySweep
