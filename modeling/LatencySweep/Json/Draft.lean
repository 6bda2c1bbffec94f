import LatencySweep.Json.Numeral
import LatencySweep.Json.StringLiteral

/-
  JSON texts as far as they go.

  A draft is the tree of a text in which a fault stands
  where the text stops being JSON. Nothing stands behind
  the fault. The tree does not decide which fault is met:
  a reader that wants the value is stricter than one that
  skips it, and a mismatch of types may be met first.

  Key definitions include:
    * `Draft`
    * `DraftItems`
    * `DraftMembers`
    * `Draft.readFault?`
    * `Draft.skipFault?`
-/

namespace LatencySweep

------------------------------------------------------------
-- Trees
------------------------------------------------------------

/- Why what stands in the place of a value is none. -/
inductive WordFault where
  | textEnd
  | wrongWord
  | noValue
  deriving DecidableEq

/- The fault of something that is no value. -/
def WordFault.fault : WordFault → JsonFault
  | textEnd => .endInValue
  | wrongWord => .expectedWord
  | noValue => .expectedValue

/- What stands behind the last item of a list. -/
inductive ListEnding where
  | closed
  | textEnd
  | trailingComma
  | noComma
  deriving DecidableEq

/- What stands behind the last member of an object. -/
inductive ObjectEnding where
  | closed
  | textEnd
  | commaAtEnd
  | trailingComma
  | noComma
  deriving DecidableEq

mutual

/- A value, or what stands in its place. -/
inductive Draft where
  | missing
  | broken (fault : WordFault)
  | null
  | bool (value : Bool)
  | number (value : Except NumeralFault NumeralValue)
  | string (literal : StringLiteral)
  | list (items : DraftItems)
  | object (members : DraftMembers)

/- The items of a list. -/
inductive DraftItems where
  | ended (ending : ListEnding)
  | item (value : Draft) (rest : DraftItems)

/- The members of an object. A key may be no string, or the
   colon behind it may be missing. -/
inductive DraftMembers where
  | ended (ending : ObjectEnding)
  | badKey (key : Draft)
  | keyOnly (key : StringLiteral) (textEnds : Bool)
  | member
      (key : StringLiteral) (value : Draft)
      (rest : DraftMembers)

end

------------------------------------------------------------
-- Faults at Endings
------------------------------------------------------------

namespace ListEnding

/- The fault met by a reader of all items. -/
def readFault? : ListEnding → Option JsonFault
  | closed => none
  | textEnd => some .endInList
  | trailingComma => some .trailingComma
  | noComma => some .expectedListComma

/- The fault met by a reader that skips the list. -/
def skipFault? : ListEnding → Option JsonFault
  | closed => none
  | textEnd => some .endInList
  | trailingComma => some .expectedValue
  | noComma => some .expectedListComma

/- The fault met by a reader that wants no more items. -/
def closeFault? : ListEnding → Option JsonFault
  | closed => none
  | textEnd => some .endInList
  | trailingComma => some .trailingComma
  | noComma => some .trailingText

end ListEnding

namespace ObjectEnding

/- The fault met by a reader of all members. -/
def readFault? : ObjectEnding → Option JsonFault
  | closed => none
  | textEnd => some .endInObject
  | commaAtEnd => some .endInValue
  | trailingComma => some .trailingComma
  | noComma => some .expectedObjectComma

/- The fault met by a reader that skips the object. -/
def skipFault? : ObjectEnding → Option JsonFault
  | closed => none
  | textEnd => some .endInObject
  | commaAtEnd => some .endInObject
  | trailingComma => some .keyNotString
  | noComma => some .expectedObjectComma

end ObjectEnding

/- The fault of a list that goes on where it should end. -/
def DraftItems.closeFault? : DraftItems → Option JsonFault
  | .ended ending => ending.closeFault?
  | .item _ _ => some .trailingText

/- The fault of a missing colon. -/
def colonFault (textEnds : Bool) : JsonFault :=
  if textEnds then .endInObject else .expectedColon

/- The fault met by a reader of a string's text. -/
def StringLiteral.readFault?
    (literal : StringLiteral) : Option JsonFault :=
  match literal.text with
  | .error fault => some fault
  | .ok _ => none

/- The fault met by a reader of a number. -/
def readNumberFault? :
    Except NumeralFault NumeralValue → Option JsonFault
  | .error fault => some fault.fault
  | .ok .outOfRange => some .numberOutOfRange
  | .ok _ => none

/- The fault met by a reader that skips a number. -/
def skipNumberFault? :
    Except NumeralFault NumeralValue → Option JsonFault
  | .error _ => some .invalidNumber
  | .ok _ => none

------------------------------------------------------------
-- Faults Met by Readers
------------------------------------------------------------

mutual

/- The first fault met by a reader that wants the whole
   value, which may be nested `room` levels deep. -/
def Draft.readFault? (room : Nat) : Draft → Option JsonFault
  | .missing => some .endInValue
  | .broken fault => some fault.fault
  | .null => none
  | .bool _ => none
  | .number value => readNumberFault? value
  | .string literal => literal.readFault?
  | .list items =>
      if room = 0 then some .tooDeep
      else items.readFault? (room - 1)
  | .object members =>
      if room = 0 then some .tooDeep
      else members.readFault? (room - 1)

/- The first fault met among items. -/
def DraftItems.readFault?
    (room : Nat) : DraftItems → Option JsonFault
  | .ended ending => ending.readFault?
  | .item value rest =>
      (value.readFault? room).or (rest.readFault? room)

/- The first fault met among members. -/
def DraftMembers.readFault?
    (room : Nat) : DraftMembers → Option JsonFault
  | .ended ending => ending.readFault?
  | .badKey _ => some .keyNotString
  | .keyOnly key textEnds =>
      some (key.readFault?.getD (colonFault textEnds))
  | .member key value rest =>
      key.readFault?.or
        ((value.readFault? room).or (rest.readFault? room))

end

mutual

/- The first fault met by a reader that skips the value. It
   may be nested as deep as it likes. -/
def Draft.skipFault? : Draft → Option JsonFault
  | .missing => some .endInValue
  | .broken fault => some fault.fault
  | .null => none
  | .bool _ => none
  | .number value => skipNumberFault? value
  | .string literal => literal.skipFault?
  | .list items => items.skipFault?
  | .object members => members.skipFault?

/- The first fault met among skipped items. -/
def DraftItems.skipFault? : DraftItems → Option JsonFault
  | .ended ending => ending.skipFault?
  | .item value rest => value.skipFault?.or rest.skipFault?

/- The first fault met among skipped members. -/
def DraftMembers.skipFault? :
    DraftMembers → Option JsonFault
  | .ended ending => ending.skipFault?
  | .badKey _ => some .keyNotString
  | .keyOnly key textEnds =>
      some (key.skipFault?.getD (colonFault textEnds))
  | .member key value rest =>
      key.skipFault?.or
        (value.skipFault?.or rest.skipFault?)

end

end LatencySweep
