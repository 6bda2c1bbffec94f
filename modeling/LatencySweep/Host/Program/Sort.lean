import LatencySweep.Host.Program.Lines

/-
  A program that sorts lines.

  Lines are compared by keys, which are ranges of fields, or
  as a whole. Lines with equal keys are compared as a whole
  in the end, unless the order is stable or equal lines are
  dropped.

  Key definitions include:
    * `SortKey`
    * `SortKey.ofWord?`
    * `SortOrder.compareLines`
    * `Program.sort`
-/

namespace LatencySweep

------------------------------------------------------------
-- Keys
------------------------------------------------------------

/- Where a key starts or ends: a field and a character. -/
structure KeyPlace where
  field : Nat
  char : Nat
  deriving DecidableEq

/- A range of a line that is compared, and how. The last
   character zero is the end of its field. -/
structure SortKey where
  start : KeyPlace
  stop : Option KeyPlace
  letters : List Char
  deriving DecidableEq

/- How lines are sorted. -/
structure SortOrder where
  separator : Option Char
  keys : List SortKey
  letters : List Char
  stable : Bool

namespace SortKey

/- A gap between fields. -/
def isGap (c : Char) : Bool := c = ' ' || c = '\t' || c = '\n'

/- A place of a key at the front of a text: a field, perhaps
   a character, and the text behind it. -/
def spanPlace? (text : List Char) :
    Option (KeyPlace × List Char) :=
  let (field, rest) := spanDigits text
  if field = [] then none
  else
    match rest with
    | '.' :: more =>
        let (char, rest) := spanDigits more
        if char = [] then none
        else
          some (⟨digitsValue field, digitsValue char⟩, rest)
    | rest => some (⟨digitsValue field, 0⟩, rest)

/- A letter that says how a key is compared. -/
def isLetter (c : Char) : Bool :=
  c ∈ ['n', 'r', 'f', 'b', 'd', 'i', 'g', 'h', 'M', 'V', 'R']

/- The key that a word stands for, or what is wrong with
   it. -/
def ofWord? (word : String) : Except String SortKey :=
  let fault : String :=
    "invalid number at field start: invalid count at start " ++
      s!"of {Program.quoteWord word}"
  match spanPlace? word.toList with
  | none => .error fault
  | some (start, rest) =>
      let letters := rest.takeWhile isLetter
      if start.field = 0 then
        .error
          ("field number is zero: invalid field " ++
            s!"specification {Program.quoteWord word}")
      else
        match rest.drop letters.length with
        | [] => .ok ⟨start, none, letters⟩
        | ',' :: more =>
            match spanPlace? more with
            | none => .error fault
            | some (stop, rest) =>
                .ok ⟨start, some stop,
                  letters ++ rest.takeWhile isLetter⟩
        | _ =>
            .error
              ("stray character in field spec: invalid field " ++
                s!"specification {Program.quoteWord word}")

/- The text behind the field at its front. -/
def skipField
    (separator : Option Char)
    (text : List Char) : List Char :=
  match separator with
  | some c => (text.dropWhile (· ≠ c)).drop 1
  | none => (text.dropWhile isGap).dropWhile (!isGap ·)

/- The text from a field on. -/
def fromField
    (separator : Option Char)
    (field : Nat)
    (line : List Char) : List Char :=
  (List.range (field - 1)).foldl
    (fun text _ => skipField separator text) line

/- The field at the front of a text. -/
def frontField
    (separator : Option Char)
    (text : List Char) : List Char :=
  match separator with
  | some c => text.takeWhile (· ≠ c)
  | none =>
      let gap := text.takeWhile isGap
      gap ++ (text.drop gap.length).takeWhile (!isGap ·)

/- The part of a line that a key compares. -/
def part
    (key : SortKey)
    (separator : Option Char)
    (letters : List Char)
    (line : List Char) : List Char :=
  let trim (text : List Char) : List Char :=
    if 'b' ∈ letters then text.dropWhile isGap else text
  let first :=
    (trim (fromField separator key.start.field line)).drop
      (key.start.char - 1)
  match key.stop with
  | none => first
  | some stop =>
      let last := fromField separator stop.field line
      let used :=
        if stop.char = 0 then frontField separator last
        else
          let gap := last.length - (trim last).length
          last.take (gap + stop.char)
      let cut := last.length - used.length
      first.take (first.length - cut)

end SortKey

------------------------------------------------------------
-- Comparisons
------------------------------------------------------------

namespace SortOrder

/- The number at the front of a text, zero if there is
   none. -/
def numberOf (general : Bool) (text : List Char) :
    Bool × Quotient :=
  let (negative, rest) : Bool × List Char :=
    match text.dropWhile SortKey.isGap with
    | '-' :: rest => (true, rest)
    | rest => (false, rest)
  let plain :=
    if general then rest
    else rest.takeWhile fun c => c.isDigit || c = '.'
  match Measure.spanQuotient? plain with
  | some (q, _) => (negative, q)
  | none => (false, ⟨0, 1⟩)

/- The order of two numbers. -/
def compareNumbers (a b : Bool × Quotient) : Ordering :=
  let signed (x : Bool × Quotient) (den : Nat) : Int :=
    let n := (x.2.num * den : Nat)
    if x.1 then -(n : Int) else n
  compare (signed a b.2.den) (signed b a.2.den)

/- The order of two texts, character by character. -/
def compareChars : List Char → List Char → Ordering
  | [], [] => .eq
  | [], _ :: _ => .lt
  | _ :: _, [] => .gt
  | a :: as, b :: bs =>
      (compare a.toNat b.toNat).then (compareChars as bs)

/- What of a text counts when it is compared. -/
def counted (letters text : List Char) : List Char :=
  let folded :=
    if 'f' ∈ letters then text.map Char.toUpper else text
  if 'd' ∈ letters then
    folded.filter fun c => SortKey.isGap c || c.isAlphanum
  else if 'i' ∈ letters then
    folded.filter fun c => 32 ≤ c.toNat && c.toNat < 127
  else folded

/- The order of two parts of lines. -/
def compareParts
    (letters : List Char)
    (a b : List Char) : Ordering :=
  let order :=
    if 'n' ∈ letters ∨ 'h' ∈ letters then
      compareNumbers (numberOf false a) (numberOf false b)
    else if 'g' ∈ letters then
      compareNumbers (numberOf true a) (numberOf true b)
    else
      let trim (text : List Char) : List Char :=
        if 'b' ∈ letters then text.dropWhile SortKey.isGap
        else text
      compareChars (counted letters (trim a))
        (counted letters (trim b))
  if 'r' ∈ letters then order.swap else order

/- The letters of a key; those for all lines if it has none
   of its own. -/
def lettersOf (o : SortOrder) (key : SortKey) : List Char :=
  if key.letters = [] then o.letters else key.letters

/- The order of two lines by keys, the first one first. -/
def compareKeys (o : SortOrder) :
    List SortKey → List Char → List Char → Ordering
  | [], _, _ => .eq
  | key :: rest, a, b =>
      let letters := o.lettersOf key
      (compareParts letters
          (key.part o.separator letters a)
          (key.part o.separator letters b)).then
        (compareKeys o rest a b)

/- The order of two lines as far as keys say. -/
def compareLines (o : SortOrder) (a b : String) : Ordering :=
  if o.keys = [] then
    compareParts o.letters a.toList b.toList
  else o.compareKeys o.keys a.toList b.toList

/- The order of two lines, in which equal lines are the
   same. -/
def compareFully (o : SortOrder) (a b : String) : Ordering :=
  let last := compareChars a.toList b.toList
  (o.compareLines a b).then
    (if o.stable then .eq
    else if 'r' ∈ o.letters then last.swap else last)

/- Lines without those that are equal to the line before. -/
def dropEqual (o : SortOrder) : List String → List String
  | [] => []
  | line :: rest =>
      match dropEqual o rest with
      | [] => [line]
      | next :: others =>
          if o.compareLines line next = .eq then line :: others
          else line :: next :: others

/- The first line that is not in order, and its number. -/
def disorder? (o : SortOrder) (strict : Bool) :
    Nat → List String → Option (Nat × String)
  | n, a :: b :: rest =>
      let order := if strict then o.compareLines a b
        else o.compareFully a b
      if order = .gt ∨ strict ∧ order = .eq then some (n + 1, b)
      else disorder? o strict (n + 1) (b :: rest)
  | _, _ => none

end SortOrder

------------------------------------------------------------
-- The Program
------------------------------------------------------------

namespace Program

/- The options of the program. -/
def sortOptions : OptionTable :=
  (OptionTable.ofLetters "nrfbdighMVRuscCmz" "ktoST").withNames
    [ ('n', "numeric-sort"), ('r', "reverse"),
      ('f', "ignore-case"), ('b', "ignore-leading-blanks"),
      ('d', "dictionary-order"), ('g', "general-numeric-sort"),
      ('u', "unique"), ('s', "stable"), ('c', "check"),
      ('m', "merge"), ('k', "key"), ('t', "field-separator"),
      ('o', "output") ]

/- The order that options ask for, or what is wrong with
   them. -/
def sortOrder (r : ReadOptions) : Except String SortOrder := do
  let keys ← (r.values 'k').mapM SortKey.ofWord?
  let separator ←
    match r.value? 't' with
    | none => .ok none
    | some word =>
        match word.toList with
        | [c] => .ok (some c)
        | ['\\', '0'] => .ok (some '\x00')
        | [] => .error "empty tab"
        | _ =>
            .error s!"multi-character tab {quoteWord word}"
  let letters :=
    (r.options.map Prod.fst).filter SortKey.isLetter
  return { separator, keys, letters
           stable := r.has 's' || r.has 'u' }

/- Check that lines are in order. -/
def checkOrder
    (call : Call)
    (r : ReadOptions)
    (order : SortOrder)
    (lines : List String) : StateM Machine Ending := do
  match order.disorder? (r.has 'u') 1 lines with
  | none => return .exited 0
  | some (number, line) =>
      if r.has 'c' then
        let file := r.operands.headD "-"
        call.complain s!"{file}:{number}: disorder: {line}"
      return .exited 1

/- Sort the lines of files. -/
def sort : Program :=
  sortOptions.program 2 fun call r => do
    match sortOrder r with
    | .error problem =>
        call.complain problem
        return .exited 2
    | .ok order =>
        let contents ← (Call.inputsOf r.operands).mapM fun file =>
          return (file, ← call.readFile file)
        let failed := contents.find? fun c =>
          match c.2 with
          | .error _ => true
          | .ok _ => false
        match failed with
        | some (file, .error .isDirectory) =>
            call.complain
              (s!"read failed: {file}: " ++
                OsError.isDirectory.reason)
            return .exited 2
        | some (file, .error e) =>
            call.complain s!"cannot read: {file}: {e.reason}"
            return .exited 2
        | _ =>
            let lines := contents.flatMap fun c =>
              linesOfRaw (c.2.toOption.getD "")
            if r.has 'c' ∨ r.has 'C' then
              checkOrder call r order lines
            else
              let sorted := lines.mergeSort fun a b =>
                order.compareFully a b ≠ .gt
              let kept :=
                if r.has 'u' then order.dropEqual sorted
                else sorted
              let output :=
                String.join (kept.map fun line => line ++ "\n")
              match r.value? 'o' with
              | none =>
                  call.print output
                  return .exited 0
              | some file =>
                  match ← call.writeFile .replace file output with
                  | .ok _ => return .exited 0
                  | .error e =>
                      call.complain
                        s!"open failed: {file}: {e.reason}"
                      return .exited 2

end Program

end LatencySweep
