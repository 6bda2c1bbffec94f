/-
  Blank characters and the words they separate.

  A character is blank when it has the Unicode property
  `White_Space`. Trace lines are cut into words at blanks,
  and a value with a blank in it cannot be part of a
  directory name.

  Key definitions include:
    * `blankRanges`
    * `isBlank`
    * `allBlank`
    * `words`
-/

namespace LatencySweep

------------------------------------------------------------
-- Blank Characters
------------------------------------------------------------

/- First and last code point of each range of blanks. -/
def blankRanges : List (Nat × Nat) :=
  [(0x09, 0x0D), (0x20, 0x20), (0x85, 0x85),
   (0xA0, 0xA0), (0x1680, 0x1680), (0x2000, 0x200A),
   (0x2028, 0x2029), (0x202F, 0x202F),
   (0x205F, 0x205F), (0x3000, 0x3000)]

/- A character with the property `White_Space`. -/
def isBlank (c : Char) : Bool :=
  blankRanges.any fun range =>
    range.1 ≤ c.toNat && c.toNat ≤ range.2

/- Every character of the text is blank. -/
def allBlank (text : List Char) : Bool :=
  text.all isBlank

example : isBlank ' ' = true := by decide
example : isBlank '\u2028' = true := by decide
example : isBlank '\u200b' = false := by decide

------------------------------------------------------------
-- Words
------------------------------------------------------------

/-
  The words of a text: its longest pieces without a blank,
  from left to right.
-/
def words (text : List Char) : List (List Char) :=
  (text.splitOnP isBlank).filter (· ≠ [])

example :
    words " a\t\tbc ".toList = ["a".toList, "bc".toList] := by
  decide

end LatencySweep
