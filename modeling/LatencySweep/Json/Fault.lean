/-
  Where a text stops being JSON, and why.

  Key definitions include:
    * `JsonFault`
    * `JsonFault.message`
    * `JsonFault.EndsEarly`
-/

namespace LatencySweep

/- Why a text is not JSON. -/
inductive JsonFault where
  | endInList
  | endInObject
  | endInString
  | endInValue
  | expectedColon
  | expectedListComma
  | expectedObjectComma
  | expectedWord
  | expectedValue
  | invalidEscape
  | invalidNumber
  | numberOutOfRange
  | controlCharacter
  | keyNotString
  | loneSurrogate
  | trailingComma
  | trailingText
  | unfinishedPair
  | tooDeep
  deriving DecidableEq

namespace JsonFault

/- The text of a fault. -/
def message : JsonFault → String
  | endInList => "EOF while parsing a list"
  | endInObject => "EOF while parsing an object"
  | endInString => "EOF while parsing a string"
  | endInValue => "EOF while parsing a value"
  | expectedColon => "expected `:`"
  | expectedListComma => "expected `,` or `]`"
  | expectedObjectComma => "expected `,` or `\x7d`"
  | expectedWord => "expected ident"
  | expectedValue => "expected value"
  | invalidEscape => "invalid escape"
  | invalidNumber => "invalid number"
  | numberOutOfRange => "number out of range"
  | controlCharacter =>
      "control character (\\u0000-\\u001F) found " ++
        "while parsing a string"
  | keyNotString => "key must be a string"
  | loneSurrogate => "lone leading surrogate in hex escape"
  | trailingComma => "trailing comma"
  | trailingText => "trailing characters"
  | unfinishedPair => "unexpected end of hex escape"
  | tooDeep => "recursion limit exceeded"

/- The text ended before the value did. -/
def EndsEarly : JsonFault → Prop
  | endInList | endInObject | endInString | endInValue => True
  | _ => False

instance (fault : JsonFault) : Decidable fault.EndsEarly := by
  cases fault <;> unfold EndsEarly <;> infer_instance

end JsonFault

end LatencySweep
