import LatencySweep.Json.Fault

/-
  Strings as JSON writes them.

  A literal is a row of characters and of codes given by
  hexadecimal escapes. Codes from `0xD800` on are only
  halves of characters; a reader of the text wants them in
  pairs, while a reader that skips the literal does not
  care.

  Key definitions include:
    * `StringUnit`
    * `StringLiteral`
    * `StringLiteral.scan`
    * `StringLiteral.text`
    * `StringLiteral.skipFault?`
-/

namespace LatencySweep

------------------------------------------------------------
-- Literals
------------------------------------------------------------

/- A character, or a code given by an escape. -/
inductive StringUnit where
  | char (c : Char)
  | code (n : Nat)
  deriving DecidableEq

/- Why a literal does not come to its closing quote. -/
inductive StringFault where
  | textEnd
  | control
  | unknownEscape
  | badHex
  deriving DecidableEq

/- The fault met by a reader that takes one unit after the
   other. -/
def StringFault.fault : StringFault → JsonFault
  | textEnd => .endInString
  | control => .controlCharacter
  | unknownEscape => .invalidEscape
  | badHex => .invalidEscape

/- The units of a literal, up to its closing quote or up to
   a fault. -/
structure StringLiteral where
  units : List StringUnit
  fault? : Option StringFault
  deriving DecidableEq

namespace StringLiteral

------------------------------------------------------------
-- Scanning
------------------------------------------------------------

/- The value of a hexadecimal digit. -/
def hexValue? (c : Char) : Option Nat :=
  if '0' ≤ c ∧ c ≤ '9' then some (c.toNat - '0'.toNat)
  else if 'a' ≤ c ∧ c ≤ 'f' then
    some (c.toNat - 'a'.toNat + 10)
  else if 'A' ≤ c ∧ c ≤ 'F' then
    some (c.toNat - 'A'.toNat + 10)
  else none

/- The code of four hexadecimal digits. -/
def hexCode? (a b c d : Char) : Option Nat :=
  match hexValue? a, hexValue? b, hexValue? c, hexValue? d with
  | some a, some b, some c, some d =>
      some (((a * 16 + b) * 16 + c) * 16 + d)
  | _, _, _, _ => none

/- The character of an escape by one letter. -/
def escaped? (c : Char) : Option Char :=
  match c with
  | '"' => some '"'
  | '\\' => some '\\'
  | '/' => some '/'
  | 'b' => some '\x08'
  | 'f' => some '\x0c'
  | 'n' => some '\n'
  | 'r' => some '\r'
  | 't' => some '\t'
  | _ => none

/- The length of a text in bytes. -/
def byteLength (text : List Char) : Nat :=
  text.foldl (fun n c => n + c.utf8Size) 0

/- A step into a literal: its first unit and what follows. -/
abbrev Step :=
  Except StringFault (StringUnit × List Char)

/- An escape by code. It needs four bytes. -/
def codeStep (text : List Char) : Step :=
  match text with
  | a :: b :: c :: d :: rest =>
      match hexCode? a b c d with
      | some n => .ok (.code n, rest)
      | none => .error .badHex
  | short =>
      if byteLength short < 4 then .error .textEnd
      else .error .badHex

/- The escape behind a backslash. -/
def escapeStep (text : List Char) : Step :=
  match text with
  | [] => .error .textEnd
  | letter :: rest =>
      if letter = 'u' then codeStep rest
      else
        match escaped? letter with
        | some c => .ok (.char c, rest)
        | none => .error .unknownEscape

/- The unit of a character that is no quote. -/
def unitStep (c : Char) (rest : List Char) : Step :=
  if c = '\\' then escapeStep rest
  else if c.toNat < 0x20 then .error .control
  else .ok (.char c, rest)

theorem length_unitStep_le
    {c : Char} {text rest : List Char} {unit : StringUnit}
    (h : unitStep c text = .ok (unit, rest)) :
    rest.length ≤ text.length := by
  unfold unitStep at h
  split at h
  · unfold escapeStep at h
    split at h
    · exact absurd h (by simp)
    · split at h
      · unfold codeStep at h
        split at h
        · split at h
          · simp only [Except.ok.injEq, Prod.mk.injEq] at h
            simp [← h.2]
            omega
          · exact absurd h (by simp)
        · split at h <;> exact absurd h (by simp)
      · split at h
        · simp only [Except.ok.injEq, Prod.mk.injEq] at h
          simp [← h.2]
        · exact absurd h (by simp)
  · split at h
    · exact absurd h (by simp)
    · simp only [Except.ok.injEq, Prod.mk.injEq] at h
      simp [← h.2]

/- A literal with nothing but a fault. -/
def broken (fault : StringFault) : StringLiteral :=
  { units := [], fault? := some fault }

/- A literal with one more unit in front. -/
def cons
    (unit : StringUnit)
    (literal : StringLiteral) : StringLiteral :=
  { literal with units := unit :: literal.units }

/- The literal behind an opening quote, and the text behind
   its closing quote. -/
def scan : List Char → StringLiteral × List Char
  | [] => (broken .textEnd, [])
  | c :: text =>
      if c = '"' then ({ units := [], fault? := none }, text)
      else
        match _h : unitStep c text with
        | .error fault => (broken fault, [])
        | .ok (unit, rest) =>
            let (literal, behind) := scan rest
            (cons unit literal, behind)
termination_by text => text.length
decreasing_by
  all_goals
    have := length_unitStep_le _h
    simp only [List.length_cons]
    omega

theorem length_scan_le (text : List Char) :
    (scan text).2.length ≤ text.length := by
  fun_induction scan text with
  | case1 => simp
  | case2 => simp
  | case3 => simp
  | case4 c text _ unit rest h literal behind hScan ih =>
      have := length_unitStep_le h
      simp only [hScan, List.length_cons] at ih ⊢
      omega

------------------------------------------------------------
-- Text
------------------------------------------------------------

/- The first half of a character beyond `0xFFFF`. -/
def isHighHalf (n : Nat) : Bool :=
  0xD800 ≤ n && n ≤ 0xDBFF

/- The second half of a character beyond `0xFFFF`. -/
def isLowHalf (n : Nat) : Bool :=
  0xDC00 ≤ n && n ≤ 0xDFFF

/- The character of two halves. -/
def joinHalves (high low : Nat) : Char :=
  Char.ofNat
    (0x10000 + (high - 0xD800) * 0x400 + (low - 0xDC00))

/- The fault at a first half that ends the units. The
   reader looks for an escape by code. -/
def faultAfterHigh : Option StringFault → JsonFault
  | some .textEnd => .endInString
  | some .badHex => .invalidEscape
  | _ => .unfinishedPair

/- The characters of units in front of a given end. -/
def readUnits
    (fault? : Option StringFault) :
    List StringUnit → Except JsonFault (List Char)
  | [] =>
      match fault? with
      | none => .ok []
      | some fault => .error fault.fault
  | .char c :: rest =>
      match readUnits fault? rest with
      | .error e => .error e
      | .ok cs => .ok (c :: cs)
  | .code n :: rest =>
      if isLowHalf n then .error .loneSurrogate
      else if isHighHalf n then
        match rest with
        | [] => .error (faultAfterHigh fault?)
        | .char _ :: _ => .error .unfinishedPair
        | .code low :: rest =>
            if isLowHalf low then
              match readUnits fault? rest with
              | .error e => .error e
              | .ok cs => .ok (joinHalves n low :: cs)
            else .error .loneSurrogate
      else
        match readUnits fault? rest with
        | .error e => .error e
        | .ok cs => .ok (Char.ofNat n :: cs)

/- The text of a literal. -/
def text (literal : StringLiteral) : Except JsonFault String :=
  (readUnits literal.fault? literal.units).map String.ofList

/- The fault met by a reader that skips the literal. -/
def skipFault? (literal : StringLiteral) : Option JsonFault :=
  literal.fault?.map StringFault.fault

example :
    (scan "a\\n\\ud83d\\ude00\" ".toList).1.text.toOption =
      some "a\n😀" := by
  decide +kernel
example :
    (scan "\\ud83d\"".toList).1.fault? = none := by
  decide +kernel
example :
    (scan "\\ud83d\"".toList).1.text.toOption = none := by
  decide +kernel
example :
    (scan "\\u12".toList).1 = broken .textEnd := by
  decide +kernel

end StringLiteral

end LatencySweep
