import LatencySweep.Number.Radix

/-
  Arithmetic of the shell.

  Numbers have 64 bits. The operators are those of the
  programming languages whose notation the shell shares;
  an assignment gives a variable a value, also in the middle
  of an expression. What is not needed is not evaluated.

  Key definitions include:
    * `Sum`
    * `Sum.read`
    * `Sum.value`
    * `Sum.valueOfText`
-/

namespace LatencySweep

namespace Shell

------------------------------------------------------------
-- Expressions
------------------------------------------------------------

/- An operator between two numbers. -/
inductive SumOperator where
  | times | dividedBy | modulo | plus | minus
  | shiftLeft | shiftRight
  | less | atMost | greater | atLeast
  | equal | differs
  | bitAnd | bitXor | bitOr
  deriving DecidableEq

/- An arithmetic expression. -/
inductive Sum where
  | number (n : Int)
  | named (name : String)
  | negative (a : Sum)
  | isZero (a : Sum)
  | complement (a : Sum)
  | binary (op : SumOperator) (a b : Sum)
  | both (a b : Sum)
  | either (a b : Sum)
  | choice (test yes no : Sum)
  | assign (name : String) (op : Option SumOperator) (a : Sum)

namespace SumOperator

/- The operators as they are written, longer ones before
   those that they start with. -/
def written : List (String × SumOperator) :=
  [ ("<<", shiftLeft), (">>", shiftRight), ("<=", atMost),
    (">=", atLeast), ("==", equal), ("!=", differs),
    ("<", less), (">", greater), ("*", times),
    ("/", dividedBy), ("%", modulo), ("+", plus),
    ("-", minus), ("&", bitAnd), ("^", bitXor),
    ("|", bitOr) ]

/- How weakly an operator binds its operands. -/
def level : SumOperator → Nat
  | times | dividedBy | modulo => 0
  | plus | minus => 1
  | shiftLeft | shiftRight => 2
  | less | atMost | greater | atLeast => 3
  | equal | differs => 4
  | bitAnd => 5
  | bitXor => 6
  | bitOr => 7

/- The level of the operators that bind most weakly. -/
def lastLevel : Nat := 7

/- The operator may stand in front of an equals sign. -/
def assigns (op : SumOperator) : Bool :=
  op.level ≠ 3 && op.level ≠ 4

/- One number for a condition that holds, and zero
   otherwise. -/
def truth (holds : Bool) : Int := if holds then 1 else 0

/- The numbers of two bit patterns combined. -/
def onBits (f : Nat → Nat → Nat) (a b : Int) : Int :=
  wrap64 (f (bits64 a) (bits64 b))

/- The result of an operator. There is none for a division
   by zero. Only the lower bits of a shift count. -/
def result? (op : SumOperator) (a b : Int) : Option Int :=
  let places := twoTo (bits64 b % 64)
  match op with
  | times => some (wrap64 (a * b))
  | dividedBy =>
      if b = 0 then none else some (wrap64 (a.tdiv b))
  | modulo => if b = 0 then none else some (wrap64 (a.tmod b))
  | plus => some (wrap64 (a + b))
  | minus => some (wrap64 (a - b))
  | shiftLeft => some (wrap64 (a * places))
  | shiftRight => some (a.fdiv places)
  | less => some (truth (a < b))
  | atMost => some (truth (a ≤ b))
  | greater => some (truth (a > b))
  | atLeast => some (truth (a ≥ b))
  | equal => some (truth (a = b))
  | differs => some (truth (a ≠ b))
  | bitAnd => some (onBits Nat.land a b)
  | bitXor => some (onBits Nat.xor a b)
  | bitOr => some (onBits Nat.lor a b)

example : result? dividedBy (-7) 2 = some (-3) := by decide +kernel
example : result? shiftRight (-5) 1 = some (-3) := by
  decide +kernel
example : result? bitAnd (-1) 6 = some 6 := by decide +kernel

end SumOperator

------------------------------------------------------------
-- Tokens
------------------------------------------------------------

/- A token of an expression. -/
inductive SumToken where
  | number (n : Int)
  | name (text : String)
  | operator (op : SumOperator)
  | assignment (op : Option SumOperator)
  | sign (text : String)
  | unknown
  deriving DecidableEq

namespace SumToken

/- A character of a variable's name. -/
def inName (c : Char) : Bool := c.isAlphanum || c = '_'

/- An operator at the front of a text, and the text behind
   it. An equals sign makes it an assignment. -/
def operator? (text : List Char) :
    Option (SumToken × List Char) :=
  (SumOperator.written.find? fun op =>
      op.1.toList.isPrefixOf text).map fun (written, op) =>
    match text.drop written.length with
    | '=' :: rest =>
        if op.assigns then (.assignment (some op), rest)
        else (.operator op, '=' :: rest)
    | rest => (.operator op, rest)

/- The token at the front of a text that does not start with
   a blank, and the text behind the token. -/
def span (c : Char) (rest : List Char) :
    SumToken × List Char :=
  let text := c :: rest
  if c.isDigit then
    match Numeral.spanUnsigned? text with
    | some (n, behind) => (.number (clamp64 n), behind)
    | none => (.unknown, rest)
  else if c.isAlpha ∨ c = '_' then
    (.name (String.ofList (text.takeWhile inName)),
      text.dropWhile inName)
  else if "&&".toList.isPrefixOf text then
    (.sign "&&", text.drop 2)
  else if "||".toList.isPrefixOf text then
    (.sign "||", text.drop 2)
  else
    match operator? text with
    | some found => found
    | none =>
        if c = '=' then (.assignment none, rest)
        else if c ∈ ['(', ')', '?', ':', '!', '~'] then
          (.sign (String.ofList [c]), rest)
        else (.unknown, rest)

/- The tokens of an expression. Each takes a character, so
   the first argument bounds their number. -/
def readFrom : Nat → List Char → List SumToken
  | 0, _ => []
  | _ + 1, [] => []
  | n + 1, c :: rest =>
      if c = ' ' ∨ c = '\t' ∨ c = '\n' then readFrom n rest
      else
        let (t, rest) := span c rest
        t :: readFrom n rest

/- The tokens of an expression. -/
def read (text : List Char) : List SumToken :=
  readFrom text.length text

example : read "a<<=010 != b".toList =
    [ .name "a", .assignment (some .shiftLeft), .number 8,
      .operator .differs, .name "b" ] := by decide +kernel

end SumToken

------------------------------------------------------------
-- Reading
------------------------------------------------------------

namespace Sum

/- An expression that was read, and the tokens behind it. -/
abbrev Reading := Except String (Sum × List SumToken)

mutual

/- Read an expression that may be an assignment. -/
def whole : Nat → List SumToken → Reading
  | 0, _ => .error "expecting primary"
  | n + 1, .name name :: .assignment op :: rest => do
      let (a, rest) ← whole n rest
      return (.assign name op a, rest)
  | n + 1, ts => conditional n ts

/- Read an expression that may be a choice. -/
def conditional : Nat → List SumToken → Reading
  | 0, _ => .error "expecting primary"
  | n + 1, ts => do
      let (test, rest) ← disjunction n ts
      match rest with
      | .sign "?" :: rest =>
          let (yes, rest) ← whole n rest
          match rest with
          | .sign ":" :: rest =>
              let (no, rest) ← conditional n rest
              return (.choice test yes no, rest)
          | _ => .error "expecting ':'"
      | rest => return (test, rest)

/- Read conditions of which one has to hold. -/
def disjunction : Nat → List SumToken → Reading
  | 0, _ => .error "expecting primary"
  | n + 1, ts => do
      let (a, rest) ← conjunction n ts
      match rest with
      | .sign "||" :: rest =>
          let (b, rest) ← disjunction n rest
          return (.either a b, rest)
      | rest => return (a, rest)

/- Read conditions that all have to hold. -/
def conjunction : Nat → List SumToken → Reading
  | 0, _ => .error "expecting primary"
  | n + 1, ts => do
      let (first, rest) ← primary n ts
      let (a, rest) ←
        operations n SumOperator.lastLevel first rest
      match rest with
      | .sign "&&" :: rest =>
          let (b, rest) ← conjunction n rest
          return (.both a b, rest)
      | rest => return (a, rest)

/- Read operations of a level or stronger ones behind the
   first operand. -/
def operations : Nat → Nat → Sum → List SumToken → Reading
  | 0, _, a, ts => .ok (a, ts)
  | n + 1, level, a, ts =>
      match ts with
      | .operator op :: rest =>
          if level < op.level then .ok (a, ts)
          else do
            let (next, rest) ← primary n rest
            let (b, rest) ←
              if op.level = 0 then pure (next, rest)
              else operations n (op.level - 1) next rest
            operations n level (.binary op a b) rest
      | ts => .ok (a, ts)

/- Read a number, a variable, or an expression in brackets,
   with signs in front. -/
def primary : Nat → List SumToken → Reading
  | 0, _ => .error "expecting primary"
  | n + 1, ts =>
      match ts with
      | .number a :: rest => .ok (.number a, rest)
      | .name name :: rest => .ok (.named name, rest)
      | .operator .plus :: rest => primary n rest
      | .operator .minus :: rest => do
          let (a, rest) ← primary n rest
          return (.negative a, rest)
      | .sign "!" :: rest => do
          let (a, rest) ← primary n rest
          return (.isZero a, rest)
      | .sign "~" :: rest => do
          let (a, rest) ← primary n rest
          return (.complement a, rest)
      | .sign "(" :: rest => do
          let (a, rest) ← whole n rest
          match rest with
          | .sign ")" :: rest => return (a, rest)
          | _ => .error "expecting ')'"
      | _ => .error "expecting primary"

end

/- The expression that a text stands for. -/
def read (text : List Char) : Except String Sum := do
  let ts := SumToken.read text
  let (a, rest) ← whole (8 * ts.length + 16) ts
  match rest with
  | [] => return a
  | _ => .error "expecting EOF"

------------------------------------------------------------
-- Values
------------------------------------------------------------

/- Why an expression has no value. -/
inductive Fault where
  | malformed (problem : String)
  | noNumber (text : String)
  deriving DecidableEq

/- The values of variables, the latest ones first. -/
abbrev Bindings := List (String × Int)

/- Evaluates with variables that may get new values. -/
abbrev Evaluation := StateT Bindings (Except Fault)

/- The number that the text of a variable stands for. -/
def numberOf (text : String) : Except Fault Int :=
  let isBlankText := text.toList.all isSpaceOrControl
  if isBlankText then .ok 0
  else
    match Numeral.span? text.toList with
    | some (n, rest) =>
        if rest.all isSpaceOrControl && clamp64 n = n then .ok n
        else .error (.noNumber text)
    | none => .error (.noNumber text)

/- The value of a variable, whose text is known unless it
   was assigned to. -/
def valueOf
    (textOf : String → String)
    (name : String) : Evaluation Int := do
  match (← get).lookup name with
  | some n => return n
  | none => numberOf (textOf name)

/- The result of an operator. -/
def applied (op : SumOperator) (a b : Int) : Evaluation Int :=
  match op.result? a b with
  | some n => pure n
  | none => throw (.malformed "division by zero")

/- The value of an expression. -/
def value
    (textOf : String → String) :
    Sum → Evaluation Int
  | number n => pure n
  | named name => valueOf textOf name
  | negative a => do return wrap64 (-(← value textOf a))
  | isZero a => do
      return SumOperator.truth ((← value textOf a) = 0)
  | complement a => do return -(← value textOf a) - 1
  | binary op a b => do
      let x ← value textOf a
      let y ← value textOf b
      applied op x y
  | both a b => do
      if (← value textOf a) = 0 then return 0
      else return SumOperator.truth ((← value textOf b) ≠ 0)
  | either a b => do
      if (← value textOf a) ≠ 0 then return 1
      else return SumOperator.truth ((← value textOf b) ≠ 0)
  | choice test yes no => do
      if (← value textOf test) ≠ 0 then value textOf yes
      else value textOf no
  | assign name op a => do
      let x ← value textOf a
      let result ←
        match op with
        | none => pure x
        | some op => do applied op (← valueOf textOf name) x
      modify fun bindings => (name, result) :: bindings
      return result

/- The value of the expression that a text stands for, and
   the variables that it assigned to. -/
def valueOfText
    (textOf : String → String)
    (text : List Char) : Except Fault (Int × Bindings) :=
  match read text with
  | .error problem => .error (.malformed problem)
  | .ok a => (value textOf a).run []

example :
    ((valueOfText (fun _ => "")
        "2+3*4-(1<<2)".toList).toOption.map Prod.fst) = some 10 := by decide +kernel
example :
    (valueOfText (fun _ => "5") "x+=2, 1".toList).toOption =
      none := by decide +kernel

end Sum

end Shell

end LatencySweep
