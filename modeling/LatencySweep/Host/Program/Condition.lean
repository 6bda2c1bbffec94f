import LatencySweep.Host.Program.Output

/-
  Conditions on words, numbers and files.

  Operators stand in front of a word or between two words.
  Conditions can be negated, joined and put in brackets. The
  shell reads a condition from the left as far as it goes;
  the program outside of it looks at the number of words
  first.

  Key definitions include:
    * `Condition.unary?`
    * `Condition.binary?`
    * `Condition.ofShell`
    * `Condition.ofProgram`
    * `Program.test`
-/

namespace LatencySweep

namespace Condition

------------------------------------------------------------
-- Files
------------------------------------------------------------

/- A path leads to something. Devices count. -/
def isThere (tree : FileTree) (path : Path) : Bool :=
  tree.holds path || (Machine.device? path.text).isSome

/- The place that a path leads to. -/
def placeOf? (tree : FileTree) (path : Path) :
    Option Location :=
  match tree.entryAt path with
  | .ok (target, _) => some target.location
  | .error _ => none

/- A file has content. A directory counts as well. -/
def isNotEmpty (tree : FileTree) (path : Path) : Bool :=
  match tree.entryAt path with
  | .ok (_, .file content) => content ≠ []
  | .ok (_, .directory) => true
  | .error _ => false

/- The condition of an operator on one word. -/
def unary? (tree : FileTree) (operator word : String) :
    Option Bool :=
  let path := Call.pathOf word
  match operator with
  | "-n" => some (word ≠ "")
  | "-z" => some (word = "")
  | "-e" | "-r" | "-w" | "-O" | "-G" | "-a" =>
      some (isThere tree path)
  | "-f" => some (tree.isFile path)
  | "-d" => some (tree.isDirectory path)
  | "-x" => some (tree.isExecutable path)
  | "-s" => some (isNotEmpty tree path)
  | "-c" => some (Machine.device? path.text).isSome
  | "-h" | "-L" | "-p" | "-S" | "-b" | "-u" | "-g" | "-k"
  | "-t" => some false
  | _ => none

------------------------------------------------------------
-- Pairs of Words
------------------------------------------------------------

/- Two numbers are in the order that an operator names. -/
def compareNumbers? (operator : String) (a b : Int) :
    Option Bool :=
  match operator with
  | "-eq" => some (a = b)
  | "-ne" => some (a ≠ b)
  | "-lt" => some (a < b)
  | "-le" => some (a ≤ b)
  | "-gt" => some (a > b)
  | "-ge" => some (a ≥ b)
  | _ => none

/- Two words are in the order that an operator names. -/
def compareWords? (operator a b : String) : Option Bool :=
  match operator with
  | "=" | "==" => some (a = b)
  | "!=" => some (a ≠ b)
  | "<" => some (a < b)
  | ">" => some (b < a)
  | _ => none

/- Two files are in the relation that an operator names. A
   file that is there counts as newer than one that is
   not. -/
def compareFiles?
    (tree : FileTree)
    (operator a b : String) : Option Bool :=
  let there (word : String) : Bool :=
    tree.holds (Call.pathOf word)
  match operator with
  | "-nt" => some (there a && !there b)
  | "-ot" => some (there b && !there a)
  | "-ef" =>
      some
        (there a &&
          placeOf? tree (Call.pathOf a) =
            placeOf? tree (Call.pathOf b))
  | _ => none

/- The number that a word stands for. Blanks may stand
   around it. -/
def number? (word : String) : Option Int :=
  match Numeral.spanDecimal? word.toList with
  | some (n, rest) =>
      if rest.all isSpaceOrControl then some n else none
  | none => none

/- The condition of an operator on two words. A number that
   cannot be read is a fault, as the given text tells. -/
def binary?
    (tree : FileTree)
    (badNumber : String → String)
    (inRange : Int → Bool)
    (a operator b : String) : Option (Except String Bool) :=
  match compareWords? operator a b,
      compareFiles? tree operator a b,
      compareNumbers? operator 0 0 with
  | some holds, _, _ => some (.ok holds)
  | none, some holds, _ => some (.ok holds)
  | none, none, none => none
  | none, none, some _ =>
      match (number? a).filter inRange,
          (number? b).filter inRange with
      | none, _ => some (.error (badNumber a))
      | _, none => some (.error (badNumber b))
      | some x, some y =>
          some (.ok ((compareNumbers? operator x y).getD false))

------------------------------------------------------------
-- Conditions of the Shell
------------------------------------------------------------

/- Operators on one word. -/
def unaryOperators : List String :=
  [ "-r", "-w", "-x", "-e", "-f", "-d", "-c", "-b", "-p",
    "-u", "-g", "-k", "-s", "-t", "-z", "-n", "-h", "-O",
    "-G", "-L", "-S" ]

/- Operators on two words. -/
def binaryOperators : List String :=
  [ "=", "!=", "<", ">", "-eq", "-ne", "-ge", "-gt", "-le",
    "-lt", "-nt", "-ot", "-ef" ]

/- What a word is in a condition of the shell. -/
inductive Role where
  | ending
  | word
  | unary
  | binary
  | negation
  | conjunction
  | disjunction
  | opening
  | closing
  deriving DecidableEq

/- The word behind a front word makes an operator of one
   word an ordinary word. -/
def isOperand (rest : List String) : Bool :=
  match rest with
  | [] => true
  | [_] => false
  | operator :: _ => operator ∈ binaryOperators

/- What the word at the front is. -/
def roleOf (ws : List String) : Role :=
  match ws with
  | [] => .ending
  | w :: rest =>
      if w ∈ unaryOperators then
        if isOperand rest then .word else .unary
      else if w ∈ binaryOperators then .binary
      else if w = "!" then .negation
      else if w = "-a" then .conjunction
      else if w = "-o" then .disjunction
      else if w = "(" then
        if rest = [] then .word else .opening
      else if w = ")" then .closing
      else .word

/- A fault of the shell at a word. -/
def faultAt (word problem : String) : String :=
  if word = "" then problem else s!"{word}: {problem}"

/- The fault about a number in the shell. -/
def illegalNumber (word : String) : String :=
  s!"Illegal number: {word}"

/- A number has 64 bits. -/
def inRange64 (n : Int) : Bool :=
  clamp64 n = n

/- A condition that was read, and the words from its last
   one on. -/
abbrev Judged := Except String (Bool × List String)

mutual

/- Conditions joined by a disjunction. The words start with
   the first one of the condition. -/
def anyOf (tree : FileTree) :
    Nat → Role → List String → Judged
  | 0, _, ws => .ok (false, ws)
  | n + 1, role, ws => do
      let (holds, ws) ← allOf tree n role ws
      if roleOf ws.tail = .disjunction then
        let rest := ws.tail.tail
        let (others, ws) ← anyOf tree n (roleOf rest) rest
        return (holds || others, ws)
      else return (holds, ws)

/- Conditions joined by a conjunction. -/
def allOf (tree : FileTree) :
    Nat → Role → List String → Judged
  | 0, _, ws => .ok (false, ws)
  | n + 1, role, ws => do
      let (holds, ws) ← negated tree n role ws
      if roleOf ws.tail = .conjunction then
        let rest := ws.tail.tail
        let (others, ws) ← allOf tree n (roleOf rest) rest
        return (holds && others, ws)
      else return (holds, ws)

/- A condition that may be negated. -/
def negated (tree : FileTree) :
    Nat → Role → List String → Judged
  | 0, _, ws => .ok (false, ws)
  | n + 1, role, ws =>
      if role ≠ .negation then single tree n role ws
      else do
        let next := roleOf ws.tail
        let rest := if next = .ending then ws else ws.tail
        let (holds, ws) ← negated tree n next rest
        return (!holds, ws)

/- A single condition. -/
def single (tree : FileTree) :
    Nat → Role → List String → Judged
  | 0, _, ws => .ok (false, ws)
  | n + 1, role, ws =>
      match role, ws with
      | .ending, ws => .ok (false, ws)
      | .opening, _ :: rest => do
          if roleOf rest = .closing then return (false, rest)
          let (holds, ws) ← anyOf tree n (roleOf rest) rest
          if roleOf ws.tail = .closing then
            return (holds, ws.tail)
          else .error "closing paren expected"
      | .unary, operator :: rest =>
          match rest with
          | [] => .error (faultAt operator "argument expected")
          | word :: _ =>
              .ok ((unary? tree operator word).getD false,
                rest)
      | _, a :: rest =>
          match roleOf rest, rest with
          | .binary, operator :: behind =>
              match behind with
              | [] =>
                  .error (faultAt operator "argument expected")
              | b :: _ => do
                  let holds ←
                    (binary? tree illegalNumber inRange64 a
                      operator b).getD (.ok false)
                  return (holds, behind)
          | _, _ => .ok (a ≠ "", ws)
      | _, [] => .ok (false, [])

end

/- Read a condition, which has to take all words. -/
def complete
    (tree : FileTree)
    (role : Role)
    (ws : List String) : Except String Bool := do
  let (holds, rest) ← anyOf tree (4 * ws.length + 8) role ws
  match rest with
  | last :: _ :: _ =>
      .error (faultAt last "unexpected operator")
  | _ => return holds

/- Negations in front of few words are taken off first, and
   so is a pair of brackets around them. -/
def shellFrom (tree : FileTree) :
    Nat → Bool → List String → Except String Bool
  | 0, _, _ => .ok false
  | n + 1, negates, ws => do
      let judge (role : Role) (ws : List String) :
          Except String Bool := do
        return (← complete tree role ws) != negates
      match ws with
      | [] => return false
      | [a, operator, b] =>
          if operator ∈ binaryOperators then
            judge .word ws
          else if a = "(" ∧ b = ")" then
            judge (roleOf [operator]) [operator]
          else if a = "!" then
            shellFrom tree n true [operator, b]
          else judge (roleOf ws) ws
      | [a, b, c, d] =>
          if a = "(" ∧ d = ")" then
            judge (roleOf [b, c]) [b, c]
          else if a = "!" then shellFrom tree n true [b, c, d]
          else judge (roleOf ws) ws
      | ws => judge (roleOf ws) ws

/- A condition of the shell. -/
def ofShell (tree : FileTree) (ws : List String) :
    Except String Bool :=
  shellFrom tree 3 false ws

------------------------------------------------------------
-- Conditions of the Program
------------------------------------------------------------

/- The fault about a number in the program. -/
def invalidInteger (word : String) : String :=
  s!"invalid integer {Program.quoteWord word}"

/- A condition between two words. -/
def between
    (tree : FileTree)
    (a operator b : String) : Option (Except String Bool) :=
  binary? tree invalidInteger (fun _ => true) a operator b

/- A condition on one or two words. -/
def ofPair (tree : FileTree) (a b : String) :
    Except String Bool :=
  if a = "!" then .ok (b = "")
  else
    match unary? tree a b with
    | some holds => .ok holds
    | none =>
        if a.toList.head? = some '-' ∧ a.length = 2 then
          .error s!"{Program.quoteWord a}: unary operator expected"
        else
          .error
            s!"missing argument after {Program.quoteWord b}"

/- A condition on three words. -/
def ofThree (tree : FileTree) (a operator b : String) :
    Except String Bool :=
  match between tree a operator b with
  | some result => result
  | none =>
      if operator = "-a" then .ok (a ≠ "" && b ≠ "")
      else if operator = "-o" then .ok (a ≠ "" || b ≠ "")
      else if a = "!" then (ofPair tree operator b).map (!·)
      else if a = "(" ∧ b = ")" then .ok (operator ≠ "")
      else
        .error
          (Program.quoteWord operator ++
            ": binary operator expected")

mutual

/- Joined conditions at the front of words, and the words
   behind them. -/
def joined (tree : FileTree) :
    Nat → List String → Judged
  | 0, ws => .ok (false, ws)
  | n + 1, ws => do
      let (holds, ws) ← conjoined tree n ws
      match ws with
      | "-o" :: rest =>
          let (others, ws) ← joined tree n rest
          return (holds || others, ws)
      | ws => return (holds, ws)

/- Conditions of a conjunction. -/
def conjoined (tree : FileTree) :
    Nat → List String → Judged
  | 0, ws => .ok (false, ws)
  | n + 1, ws => do
      let (holds, ws) ← term tree n ws
      match ws with
      | "-a" :: rest =>
          if rest = [] then .error "missing argument after '-a'"
          else
            let (others, ws) ← conjoined tree n rest
            return (holds && others, ws)
      | ws => return (holds, ws)

/- A single condition at the front of words. -/
def term (tree : FileTree) :
    Nat → List String → Judged
  | 0, ws => .ok (false, ws)
  | n + 1, ws =>
      match ws with
      | [] => .error "missing argument"
      | "!" :: rest => do
          let (holds, ws) ← term tree n rest
          return (!holds, ws)
      | "(" :: rest => do
          let (holds, ws) ← joined tree n rest
          match ws with
          | ")" :: rest => return (holds, rest)
          | [] => .error "')' expected"
          | word :: _ =>
              .error
                s!"')' expected, found {Program.quoteWord word}"
      | a :: operator :: b :: rest =>
          match between tree a operator b with
          | some result => result.map fun h => (h, rest)
          | none =>
              match unary? tree a operator with
              | some holds => .ok (holds, b :: rest)
              | none => .ok (a ≠ "", operator :: b :: rest)
      | [a, b] =>
          match unary? tree a b with
          | some holds => .ok (holds, [])
          | none => .ok (a ≠ "", [b])
      | [a] => .ok (a ≠ "", [])

end

/- A condition of the program. -/
def ofProgram (tree : FileTree) (ws : List String) :
    Except String Bool :=
  match ws with
  | [] => .ok false
  | [a] => .ok (a ≠ "")
  | [a, b] => ofPair tree a b
  | [a, operator, b] => ofThree tree a operator b
  | ["!", a, operator, b] =>
      (ofThree tree a operator b).map (!·)
  | ["(", a, b, ")"] => ofPair tree a b
  | ws => do
      let (holds, rest) ← joined tree (4 * ws.length + 8) ws
      match rest with
      | [] => return holds
      | extra :: _ =>
          .error s!"extra argument {Program.quoteWord extra}"

end Condition

------------------------------------------------------------
-- The Program
------------------------------------------------------------

namespace Program

/- End with the result of a condition. -/
def endWith (call : Call) (result : Except String Bool) :
    StateM Machine Ending := do
  match result with
  | .ok holds => return .exited (if holds then 0 else 1)
  | .error problem =>
      call.complain problem
      return .exited 2

/- Tell whether a condition holds. -/
def test : Program := fun call => do
  endWith call
    (Condition.ofProgram (← get).tree call.args)

/- Tell whether a condition in brackets holds. -/
def bracketTest : Program := fun call => do
  if call.args.getLast? = some "]" then
    endWith call
      (Condition.ofProgram (← get).tree call.args.dropLast)
  else endWith call (.error "missing ']'")

/- The programs that check conditions. -/
def conditions : Table :=
  [("test", test), ("[", bracketTest)]

end Program

end LatencySweep
