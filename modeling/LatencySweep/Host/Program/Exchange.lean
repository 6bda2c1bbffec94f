import LatencySweep.Host.Program.Lines

/-
  A program that exchanges characters.

  Sets of characters are given by ranges, classes and
  escapes. Characters of the first set become those of the
  second one, or are dropped or squeezed.

  Key definitions include:
    * `Program.SetPart`
    * `Program.setParts`
    * `Program.exchangeText`
    * `Program.exchange`
-/

namespace LatencySweep

namespace Program

------------------------------------------------------------
-- Sets of Characters
------------------------------------------------------------

/- A class of characters under a name. -/
def classOf? (name : String) : Option (Char → Bool) :=
  let isPunctuation (c : Char) : Bool :=
    33 ≤ c.toNat && c.toNat < 127 && !c.isAlphanum
  match name with
  | "alnum" => some Char.isAlphanum
  | "alpha" => some Char.isAlpha
  | "digit" => some Char.isDigit
  | "upper" => some Char.isUpper
  | "lower" => some Char.isLower
  | "space" => some isSpaceOrControl
  | "blank" => some fun c => c = ' ' || c = '\t'
  | "punct" => some isPunctuation
  | "cntrl" => some fun c => c.toNat < 32 || c.toNat = 127
  | "graph" => some fun c => 32 < c.toNat && c.toNat < 127
  | "print" => some fun c => 32 ≤ c.toNat && c.toNat < 127
  | "xdigit" => some fun c => (radixValue? 16 c).isSome
  | _ => none

/- All characters of bytes. -/
def allChars : List Char :=
  (List.range 256).map Char.ofNat

/- A part of a set of characters: single ones, a class, or
   one that is repeated as often as needed. -/
inductive SetPart where
  | chars (content : List Char)
  | named (name : String)
  | filler (c : Char)
  deriving DecidableEq

/- A character at the front of a text, which may be an
   escape, and the text behind it. -/
def setChar? (text : List Char) : Option (Char × List Char) :=
  match text with
  | [] => none
  | '\\' :: rest =>
      match EscapeRules.shellFormat.escape? rest with
      | some result => some result
      | none =>
          match rest with
          | [] => some ('\\', [])
          | c :: rest => some (c, rest)
  | c :: rest => some (c, rest)

/- The parts of a set. Each step takes a character. -/
def setParts : Nat → List Char → Except String (List SetPart)
  | 0, _ => .ok []
  | n + 1, text =>
      match text with
      | [] => .ok []
      | '[' :: ':' :: rest =>
          let name := rest.takeWhile (· ≠ ':')
          match rest.drop name.length with
          | ':' :: ']' :: behind =>
              (setParts n behind).map
                (.named (String.ofList name) :: ·)
          | _ =>
              (setParts n (':' :: rest)).map
                (.chars ['['] :: ·)
      | '[' :: c :: '*' :: rest =>
          let digits := rest.takeWhile (· ≠ ']')
          match rest.drop digits.length, natural? digits with
          | _ :: behind, some (k + 1) =>
              (setParts n behind).map
                (.chars (List.replicate (k + 1) c) :: ·)
          | _ :: behind, _ =>
              if digits = [] ∨ digits = ['0'] then
                (setParts n behind).map (.filler c :: ·)
              else
                (setParts n (c :: '*' :: rest)).map
                  (.chars ['['] :: ·)
          | [], _ =>
              (setParts n (c :: '*' :: rest)).map
                (.chars ['['] :: ·)
      | text =>
          match setChar? text with
          | none => .ok []
          | some (first, '-' :: rest) =>
              match setChar? rest with
              | none =>
                  .ok [.chars [first], .chars ['-']]
              | some (last, behind) =>
                  if last < first then
                    .error
                      ("range-endpoints of '" ++
                        String.ofList [first, '-', last] ++
                        "' are in reverse collating " ++
                        "sequence order")
                  else
                    let range := allChars.filter fun c =>
                      first ≤ c && c ≤ last
                    (setParts n behind).map
                      (.chars range :: ·)
          | some (c, rest) =>
              (setParts n rest).map (.chars [c] :: ·)

/- The characters of a part of a set. -/
def SetPart.members : SetPart → List Char
  | .chars content => content
  | .named name =>
      allChars.filter ((classOf? name).getD fun _ => false)
  | .filler c => [c]

/- The characters of the first set in order. -/
def firstSet (complements : Bool) (parts : List SetPart) :
    List Char :=
  let members := parts.flatMap SetPart.members
  if complements then
    allChars.filter fun c => !members.contains c
  else members

/- The characters of the second set, as many as the first
   one has. Its last one is repeated. -/
def secondSet (count : Nat) (parts : List SetPart) :
    List Char :=
  let plain := parts.flatMap SetPart.members
  let missing := count - plain.length
  let isFiller (p : SetPart) : Bool :=
    match p with
    | .filler _ => true
    | _ => false
  let members := parts.flatMap fun p =>
    match p with
    | .filler c => List.replicate (missing + 1) c
    | p => p.members
  if parts.any isFiller then members
  else
    match plain.getLast? with
    | none => []
    | some c => plain ++ List.replicate missing c

/- Pairs of classes change the case of letters. -/
def caseOf? (first second : List SetPart) :
    Option (Char → Char) :=
  match first, second with
  | [.named "upper"], [.named "lower"] => some Char.toLower
  | [.named "lower"], [.named "upper"] => some Char.toUpper
  | _, _ => none

/- The exchange of the characters of a set for those of
   another one. -/
def exchangeOf
    (truncates complements : Bool)
    (first second : List SetPart) : Char → Char :=
  match caseOf? first second with
  | some f => f
  | none =>
      let froms := firstSet complements first
      let tos :=
        if truncates then second.flatMap SetPart.members
        else secondSet froms.length second
      let pairs := (froms.zip tos).reverse
      fun c => (pairs.lookup c).getD c

/- A text without repetitions of some characters. -/
def squeeze (isSqueezed : Char → Bool) :
    List Char → List Char
  | [] => []
  | c :: rest =>
      if isSqueezed c ∧ rest.head? = some c then
        squeeze isSqueezed rest
      else c :: squeeze isSqueezed rest

/- The change of a text that options and sets ask for. -/
def exchangeText
    (r : ReadOptions)
    (first : List SetPart)
    (second : Option (List SetPart)) : List Char → List Char :=
  let complements := r.has 'c' || r.has 'C'
  let members := firstSet complements first
  let isMember (c : Char) : Bool := members.contains c
  let others := (second.getD []).flatMap SetPart.members
  if r.has 'd' then fun text =>
    let kept := text.filter (!isMember ·)
    if r.has 's' then squeeze others.contains kept else kept
  else
    match second with
    | none => squeeze isMember
    | some second => fun text =>
        let f := exchangeOf (r.has 't') complements first second
        let exchanged := text.map f
        if r.has 's' then squeeze others.contains exchanged
        else exchanged

/- What is wrong with the number of operands. -/
def exchangeFault? (r : ReadOptions) : Option (List String) :=
  let needsOne := r.has 'd' && !r.has 's'
  let mayHaveOne := r.has 'd' || r.has 's'
  match r.operands with
  | [] => some ["missing operand"]
  | [word] =>
      if r.has 'd' && r.has 's' then
        some
          [ s!"missing operand after {quoteWord word}",
            "Two strings must be given when both deleting " ++
              "and squeezing repeats." ]
      else if mayHaveOne then none
      else
        some
          [ s!"missing operand after {quoteWord word}",
            "Two strings must be given when translating." ]
  | [_, word] =>
      if needsOne then
        some
          [ s!"extra operand {quoteWord word}",
            "Only one string may be given when deleting " ++
              "without squeezing repeats." ]
      else none
  | _ :: _ :: word :: _ =>
      some [s!"extra operand {quoteWord word}"]

/- The options of the program. -/
def exchangeOptions : OptionTable :=
  { (OptionTable.ofLetters "cCdst" "").withNames
      [ ('d', "delete"), ('s', "squeeze-repeats"),
        ('c', "complement"), ('t', "truncate-set1") ] with
    stopsAtOperand := true }

/- Exchange, drop or squeeze characters of the standard
   input. -/
def exchange : Program :=
  exchangeOptions.program 1 fun call r => do
    match exchangeFault? r with
    | some problems =>
        call.complain (String.intercalate "\n" problems)
        call.hint
        return .exited 1
    | none =>
        let sets := r.operands.map fun word =>
          setParts (word.length + 1) word.toList
        match sets with
        | .error problem :: _ | _ :: .error problem :: _ =>
            call.complain problem
            return .exited 1
        | .ok first :: others =>
            let second := (others.head?).map fun s =>
              s.toOption.getD []
            match ← call.readInput with
            | .error e =>
                call.complain s!"read error: {e.reason}"
                return .exited 1
            | .ok content =>
                call.print
                  (String.ofList
                    (exchangeText r first second
                      content.toList))
                return .exited 0
        | [] => return .exited 1

end Program

end LatencySweep
