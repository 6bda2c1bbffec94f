import LatencySweep.Host.Program.Escape
import LatencySweep.Number.Notation

/-
  Formats with places for arguments.

  A place starts with a percent sign. It may have flags, a
  width and a precision, and ends with a letter that says
  how an argument is shown. The format is used again until
  there are no more arguments.

  Key definitions include:
    * `Place`
    * `FormatRules`
    * `Printed`
    * `FormatRules.print`
-/

namespace LatencySweep

------------------------------------------------------------
-- Places
------------------------------------------------------------

/- A number in a place, given there or by an argument. -/
inductive Amount where
  | given (n : Nat)
  | argument
  deriving DecidableEq

/- A place for an argument, with the text that it was
   written with. -/
structure Place where
  flags : List Char
  width : Option Amount
  precision : Option Amount
  kind : Option Char
  written : List Char
  deriving DecidableEq

namespace Place

/- The number at the front of a text: a star, or digits. -/
def spanAmount? (text : List Char) :
    Option Amount × List Char :=
  match text with
  | '*' :: rest => (some .argument, rest)
  | text =>
      let (digits, rest) := spanDigits text
      if digits = [] then (none, rest)
      else (some (.given (digitsValue digits)), rest)

/- The place whose text starts behind the percent sign, and
   the text behind it. Letters for sizes may be skipped. -/
def span
    (skipsSizes : Bool)
    (text : List Char) : Place × List Char :=
  let isFlag (c : Char) : Bool :=
    c ∈ ['#', '-', '+', ' ', '0']
  let flags := text.takeWhile isFlag
  let (width, rest) := spanAmount? (text.dropWhile isFlag)
  let (precision, rest) : Option Amount × List Char :=
    match rest with
    | '.' :: rest =>
        let (amount, rest) := spanAmount? rest
        (some (amount.getD (.given 0)), rest)
    | rest => (none, rest)
  let isSize (c : Char) : Bool :=
    skipsSizes && c ∈ ['l', 'L', 'h', 'j', 't', 'z']
  let behind := (rest.dropWhile isSize).drop 1
  ({ flags, width, precision
     kind := (rest.dropWhile isSize).head?
     written :=
      '%' :: text.take (text.length - behind.length) },
    behind)

end Place

------------------------------------------------------------
-- Layouts
------------------------------------------------------------

/- A place whose numbers are known. -/
structure Layout where
  flags : List Char
  width : Int
  precision : Option Nat
  kind : Char

namespace Layout

/- The text is at the left of its place. -/
def isLeft (l : Layout) : Bool :=
  '-' ∈ l.flags || l.width < 0

/- A text in a place of the right width. Zeros go between
   the front of a number and its digits. -/
def fit
    (l : Layout)
    (zeros : Bool)
    (front body : List Char) : List Char :=
  let missing :=
    l.width.natAbs - (front.length + body.length)
  if l.isLeft then
    front ++ body ++ List.replicate missing ' '
  else if zeros ∧ '0' ∈ l.flags then
    front ++ List.replicate missing '0' ++ body
  else List.replicate missing ' ' ++ front ++ body

/- The sign of a number. -/
def signText (l : Layout) (negative : Bool) : List Char :=
  if negative then ['-']
  else if '+' ∈ l.flags then ['+']
  else if ' ' ∈ l.flags then [' ']
  else []

/- The digits of a whole number, at least as many as the
   precision says. -/
def wholeDigits
    (l : Layout)
    (digits : List Char) : List Char :=
  match l.precision with
  | none => digits
  | some n =>
      if n = 0 ∧ digits = ['0'] then []
      else List.replicate (n - digits.length) '0' ++ digits

/- A whole number with a sign. -/
def signedText (l : Layout) (n : Int) : List Char :=
  l.fit (l.precision = none) (l.signText (n < 0))
    (l.wholeDigits (decimalDigits n.natAbs))

/- A whole number without a sign. -/
def unsignedText (l : Layout) (n : Nat) : List Char :=
  let base :=
    if l.kind = 'o' then 8
    else if l.kind = 'x' ∨ l.kind = 'X' then 16 else 10
  let digits :=
    l.wholeDigits (radixDigits base (l.kind = 'X') n)
  let marked := '#' ∈ l.flags
  if base = 8 ∧ marked ∧ digits.head? ≠ some '0' then
    l.fit (l.precision = none) [] ('0' :: digits)
  else if base = 16 ∧ marked ∧ n ≠ 0 then
    l.fit (l.precision = none) ['0', l.kind] digits
  else l.fit (l.precision = none) [] digits

/- A text, at most as long as the precision says. -/
def text (l : Layout) (content : List Char) : List Char :=
  l.fit false []
    (match l.precision with
    | none => content
    | some n => content.take n)

end Layout

------------------------------------------------------------
-- Fractions
------------------------------------------------------------

/- A number that may have a fraction. -/
inductive Measure where
  | quotient (value : Quotient)
  | infinite
  | undefined
  deriving DecidableEq

namespace Measure

/- The exponent in front of a text, zero if there is none,
   and the text behind it. -/
def spanExponent (text : List Char) : Int × List Char :=
  match text with
  | e :: sign :: rest =>
      let digits :=
        if sign = '-' ∨ sign = '+' then rest else sign :: rest
      if (e = 'e' ∨ e = 'E') ∧ startsWithDigit 10 digits then
        let (n, behind) := spanRadix 10 digits
        (if sign = '-' then -(n : Int) else n, behind)
      else (0, text)
  | text => (0, text)

/- The decimal in front of a text: digits on at least one
   side of a point, and perhaps an exponent. Exponents far
   from any float are cut. -/
def spanQuotient? (text : List Char) :
    Option (Quotient × List Char) :=
  let (whole, rest) := spanDigits text
  let (fraction, rest) := Binary64.spanFraction rest
  if whole = [] ∧ fraction = [] then none
  else
    let (exponent, rest) := spanExponent rest
    let scale := exponent - fraction.length
    some
      (⟨digitsValue (whole ++ fraction) *
          tenTo (min scale.toNat 5000),
        tenTo (min (-scale).toNat 5000)⟩, rest)

/- The number in front of a text, whether it is negative,
   and the text behind it. -/
def span? (text : List Char) :
    Option ((Bool × Measure) × List Char) :=
  let (negative, rest) : Bool × List Char :=
    match text.dropWhile isSpaceOrControl with
    | '-' :: rest => (true, rest)
    | '+' :: rest => (false, rest)
    | rest => (false, rest)
  let lower := rest.map Char.toLower
  let starts (word : String) : Bool :=
    word.toList.isPrefixOf lower
  if starts "infinity" then
    some ((negative, .infinite), rest.drop 8)
  else if starts "inf" then
    some ((negative, .infinite), rest.drop 3)
  else if starts "nan" then
    some ((negative, .undefined), rest.drop 3)
  else
    (spanQuotient? rest).map fun r =>
      ((negative, .quotient r.1), r.2)

/- The number that a float nearest to it stands for. -/
def nearestFloat : Measure → Measure
  | .quotient q =>
      let x := Binary64.ofRatio false q.num q.den
      if x.IsFinite then .quotient (Quotient.ofBinary64 x)
      else .infinite
  | other => other

end Measure

/- A number that may have a fraction, as a layout asks. -/
def Layout.fractionText
    (l : Layout)
    (negative : Bool)
    (value : Measure) : List Char :=
  let lower := l.kind.toLower
  let keepsPoint := '#' ∈ l.flags
  let body : List Char :=
    match value with
    | .infinite => ['i', 'n', 'f']
    | .undefined => ['n', 'a', 'n']
    | .quotient q =>
        let digits := l.precision.getD 6
        if lower = 'f' then q.fixed digits keepsPoint
        else if lower = 'e' then q.scientific digits keepsPoint
        else q.general digits keepsPoint
  let body :=
    if l.kind.isUpper then body.map Char.toUpper else body
  let isFinite := match value with
    | .quotient _ => true
    | _ => false
  l.fit isFinite (l.signText negative) body

------------------------------------------------------------
-- Rules of Programs
------------------------------------------------------------

/- How a program reads formats and tells about arguments
   that do not fit. -/
structure FormatRules where
  formatEscapes : EscapeRules
  argumentEscapes : EscapeRules
  skipsSizes : Bool
  roundsToFloat : Bool
  noNumber : String → String
  partNumber : String → String
  outOfRange : String → String
  badPlace : Place → String

/- What was printed: text for the output, and problems that
   were told in between. -/
inductive Printed where
  | output (text : String)
  | problem (text : String)
  deriving DecidableEq

/- How far a format was printed. A fault or an escape that
   stops printing ends it. -/
structure Printing where
  args : List String
  printed : List Printed
  ended : Bool
  fault : Option String

namespace Printing

/- Print a text. -/
def put (p : Printing) (text : List Char) : Printing :=
  { p with
    printed := p.printed ++ [.output (String.ofList text)] }

/- Tell about a problem. -/
def tell (p : Printing) (problem : String) : Printing :=
  { p with printed := p.printed ++ [.problem problem] }

/- The next argument, if there is one. -/
def next (p : Printing) : Option String × Printing :=
  (p.args.head?, { p with args := p.args.tail })

end Printing

namespace FormatRules

/- Tell what is wrong with a number that was not read to its
   end, or is out of range. -/
def check
    (rules : FormatRules)
    (p : Printing)
    (text : String)
    (rest : List Char)
    (inRange : Bool) : Printing :=
  if rest ≠ [] then
    if rest = text.toList then p.tell (rules.noNumber text)
    else p.tell (rules.partNumber text)
  else if inRange then p
  else p.tell (rules.outOfRange text)

/- The next argument as a whole number. A quote stands for
   the character behind it. -/
def nextWhole
    (rules : FormatRules)
    (signed : Bool)
    (p : Printing) : Int × Printing :=
  match p.next with
  | (none, p) => (0, p)
  | (some text, p) =>
      match text.toList with
      | '"' :: c :: _ | '\'' :: c :: _ => ((c.toNat : Int), p)
      | chars =>
          match Numeral.span? chars with
          | none => (0, rules.check p text chars true)
          | some (n, rest) =>
              let low := if signed then -(twoTo 63 : Int)
                else -(twoTo 64 : Int) + 1
              let high := if signed then (twoTo 63 : Int)
                else (twoTo 64 : Int)
              let clamped := max low (min n (high - 1))
              (clamped,
                rules.check p text rest (clamped = n))

/- The next argument as a number that may have a
   fraction. -/
def nextMeasure
    (rules : FormatRules)
    (p : Printing) : (Bool × Measure) × Printing :=
  match p.next with
  | (none, p) => ((false, .quotient ⟨0, 1⟩), p)
  | (some text, p) =>
      match text.toList with
      | '"' :: c :: _ | '\'' :: c :: _ =>
          ((false, .quotient ⟨c.toNat, 1⟩), p)
      | chars =>
          match Measure.span? chars with
          | none =>
              ((false, .quotient ⟨0, 1⟩),
                rules.check p text chars true)
          | some ((negative, value), rest) =>
              let value :=
                if rules.roundsToFloat then value.nearestFloat
                else value
              ((negative, value),
                rules.check p text rest true)

/- A number of a place. -/
def amount
    (rules : FormatRules)
    (given : Option Amount)
    (p : Printing) : Option Int × Printing :=
  match given with
  | none => (none, p)
  | some (.given n) => (some n, p)
  | some .argument =>
      let (n, p) := rules.nextWhole true p
      (some n, p)

/- Print an argument at a place with a known layout. -/
def printAt
    (rules : FormatRules)
    (l : Layout)
    (p : Printing) : Option Printing :=
  match l.kind with
  | 's' =>
      let (text, p) := p.next
      some (p.put (l.text (text.getD "").toList))
  | 'b' =>
      let (text, p) := p.next
      let (content, stops) :=
        rules.argumentEscapes.resolve (text.getD "")
      some
        { p.put (l.text content.toList) with ended := stops }
  | 'c' =>
      let (text, p) := p.next
      let c := ((text.getD "").toList.head?).getD '\x00'
      some (p.put (l.fit false [] [c]))
  | 'd' | 'i' =>
      let (n, p) := rules.nextWhole true p
      some (p.put (l.signedText n))
  | 'o' | 'u' | 'x' | 'X' =>
      let (n, p) := rules.nextWhole false p
      some (p.put (l.unsignedText (bits64 n)))
  | 'e' | 'E' | 'f' | 'F' | 'g' | 'G' =>
      let ((negative, value), p) := rules.nextMeasure p
      some (p.put (l.fractionText negative value))
  | _ => none

/- Print what belongs at a place. -/
def printPlace
    (rules : FormatRules)
    (place : Place)
    (p : Printing) : Printing :=
  let (width, p) := rules.amount place.width p
  let (precision, p) := rules.amount place.precision p
  let precision :=
    precision.bind fun n =>
      if n < 0 then none else some n.toNat
  let printed :=
    place.kind.bind fun kind =>
      rules.printAt
        { flags := place.flags, width := width.getD 0
          precision, kind } p
  match printed with
  | some p => p
  | none =>
      { p with
        ended := true
        fault := some (rules.badPlace place) }

/- Print a format once. Each step takes a character of the
   format. -/
def printOnce
    (rules : FormatRules) :
    Nat → List Char → Printing → Printing
  | 0, _, p => p
  | _ + 1, [], p => p
  | n + 1, c :: rest, p =>
      if p.ended then p
      else if c = '\\' then
        if rules.formatEscapes.stops ∧ rest.head? = some 'c' then
          { p with ended := true }
        else
          match rules.formatEscapes.escape? rest with
          | some (d, rest) =>
              printOnce rules n rest (p.put [d])
          | none => printOnce rules n rest (p.put [c])
      else if c = '%' then
        match rest with
        | '%' :: rest => printOnce rules n rest (p.put ['%'])
        | rest =>
            let (place, rest) := Place.span rules.skipsSizes rest
            printOnce rules n rest (rules.printPlace place p)
      else
        let plain := rest.takeWhile fun d =>
          d ≠ '\\' && d ≠ '%'
        printOnce rules n (rest.drop plain.length)
          (p.put (c :: plain))

/- Print a format as long as it takes arguments that are
   left. -/
def printRepeated
    (rules : FormatRules)
    (format : List Char) : Nat → Printing → Printing
  | 0, p => p
  | n + 1, p =>
      let next := rules.printOnce format.length format p
      if next.ended ∨ next.args = [] ∨
          next.args.length = p.args.length then next
      else printRepeated rules format n next

/- Print arguments in a format. -/
def print
    (rules : FormatRules)
    (format : String)
    (args : List String) : Printing :=
  rules.printRepeated format.toList (args.length + 1)
    { args, printed := [], ended := false, fault := none }

end FormatRules

end LatencySweep
