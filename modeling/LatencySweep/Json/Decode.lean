import LatencySweep.Json.Reader
import LatencySweep.Number.Text
import LatencySweep.Text.Quoted

/-
  Decoding drafts of JSON texts.

  A decoder goes through a draft in the order of the text,
  and the first problem it meets decides the error, be it a
  fault of the text or a value of the wrong type.

  Key definitions include:
    * `Mismatch`
    * `DecodeError`
    * `Decoder`
    * `Decoder.string`
    * `Decoder.list`
    * `Decoder.pair`
    * `Decoder.choice`
    * `Decoder.decodeText`
-/

namespace LatencySweep

------------------------------------------------------------
-- Errors
------------------------------------------------------------

/- A value that is well-formed but not what is wanted. -/
inductive Mismatch where
  | type (found expected : String)
  | value (found expected : String)
  | length (found : Nat) (expected : String)
  | missingField (name : String)
  | duplicateField (name : String)
  | unknownVariant (found : String) (known : List String)
  | noVariant (name : String)
  deriving DecidableEq

/- A name as part of a message. -/
def shownName (name : String) : String :=
  s!"`{name}`"

/- The text of a mismatch. -/
def Mismatch.message : Mismatch → String
  | type found expected =>
      s!"invalid type: {found}, expected {expected}"
  | value found expected =>
      s!"invalid value: {found}, expected {expected}"
  | length found expected =>
      s!"invalid length {found}, expected {expected}"
  | missingField name => s!"missing field `{name}`"
  | duplicateField name => s!"duplicate field `{name}`"
  | unknownVariant found known =>
      s!"unknown variant `{found}`, expected one of " ++
        String.intercalate ", " (known.map shownName)
  | noVariant name =>
      "data did not match any variant of untagged enum " ++
        name

/- Why a text cannot be decoded. -/
inductive DecodeError where
  | fault (cause : JsonFault)
  | mismatch (cause : Mismatch)
  deriving DecidableEq

/- The text of an error, without the line and the column at
   its end. These tell where in the text the error was
   met, and a draft does not keep its places. -/
def DecodeError.message : DecodeError → String
  | fault cause => cause.message
  | mismatch cause => cause.message

instance : ToString DecodeError := ⟨DecodeError.message⟩

------------------------------------------------------------
-- Decoders
------------------------------------------------------------

/-
  A decoder turns a draft into a value. It is told how many
  levels deep the draft may be nested.
-/
abbrev Decoder (α : Type) :=
  Nat → Draft → Except DecodeError α

namespace Decoder

/- How deep a text may be nested. -/
def maxDepth : Nat := 127

/- Fail if there is a fault. -/
def refuse : Option JsonFault → Except DecodeError Unit
  | none => .ok ()
  | some fault => .error (.fault fault)

/- The text of a string. -/
def literalText
    (literal : StringLiteral) : Except DecodeError String :=
  literal.text.mapError .fault

/- The description of an integer. -/
def shownInteger (n : Int) : String :=
  s!"integer `{n}`"

/- The error of a draft that is not what is expected.
   Scalars are read to their end before. -/
def wrongType
    (draft : Draft)
    (expected : String) : DecodeError :=
  let mismatch (found : String) : DecodeError :=
    .mismatch (.type found expected)
  match draft with
  | .missing => .fault .endInValue
  | .broken fault => .fault fault.fault
  | .null => mismatch "null"
  | .bool value => mismatch s!"boolean `{value}`"
  | .number (.error fault) => .fault fault.fault
  | .number (.ok .outOfRange) => .fault .numberOutOfRange
  | .number (.ok (.integer n)) => mismatch (shownInteger n)
  | .number (.ok (.float x)) =>
      mismatch s!"floating point `{x.toLiteral}`"
  | .string literal =>
      match literal.text with
      | .error fault => .fault fault
      | .ok text => mismatch s!"string {quoted text}"
  | .list _ => mismatch "sequence"
  | .object _ => mismatch "map"

------------------------------------------------------------
-- Scalars
------------------------------------------------------------

/- A string, described by the given words. -/
def text (expected : String) : Decoder String := fun _ draft =>
  match draft with
  | .string literal => literalText literal
  | _ => .error (wrongType draft expected)

/- A string. -/
def string : Decoder String :=
  text "a string"

/- A boolean. -/
def bool : Decoder Bool := fun _ draft =>
  match draft with
  | .bool value => .ok value
  | _ => .error (wrongType draft "a boolean")

/- A natural number of 64 bits. -/
def natural : Decoder Nat := fun _ draft =>
  match draft with
  | .number (.ok (.integer n)) =>
      if n < 0 then
        .error (.mismatch (.value (shownInteger n) "usize"))
      else .ok n.toNat
  | _ => .error (wrongType draft "usize")

/- Nothing. -/
def unit : Decoder Unit := fun _ draft =>
  match draft with
  | .null => .ok ()
  | _ => .error (wrongType draft "unit")

------------------------------------------------------------
-- Lists and Pairs
------------------------------------------------------------

variable {α β : Type}

/- All items of a list. -/
def items
    (item : Decoder α)
    (room : Nat) :
    DraftItems → Except DecodeError (List α)
  | .ended ending =>
      match ending.readFault? with
      | some fault => .error (.fault fault)
      | none => .ok []
  | .item value rest =>
      match item room value with
      | .error e => .error e
      | .ok first =>
          match items item room rest with
          | .error e => .error e
          | .ok others => .ok (first :: others)

/- A list. -/
def list (item : Decoder α) : Decoder (List α) :=
  fun room draft =>
    match draft with
    | .list values =>
        if room = 0 then .error (.fault .tooDeep)
        else items item (room - 1) values
    | _ => .error (wrongType draft "a sequence")

/- The first item of what is left of a pair. -/
def pairItem
    (item : Decoder α)
    (room index : Nat) :
    DraftItems → Except DecodeError (α × DraftItems)
  | .ended ending =>
      match ending.readFault? with
      | some fault => .error (.fault fault)
      | none =>
          .error
            (.mismatch (.length index "a tuple of size 2"))
  | .item value rest =>
      match item room value with
      | .error e => .error e
      | .ok first => .ok (first, rest)

/- A list of exactly two items. -/
def pair
    (first : Decoder α)
    (second : Decoder β) : Decoder (α × β) :=
  fun room draft =>
    match draft with
    | .list values =>
        if room = 0 then .error (.fault .tooDeep)
        else
          match pairItem first (room - 1) 0 values with
          | .error e => .error e
          | .ok (a, values) =>
              match pairItem second (room - 1) 1 values with
              | .error e => .error e
              | .ok (b, values) =>
                  match refuse values.closeFault? with
                  | .error e => .error e
                  | .ok _ => .ok (a, b)
    | _ => .error (wrongType draft "a tuple of size 2")

------------------------------------------------------------
-- Choices
------------------------------------------------------------

/- One of the known names. -/
def variant
    (known : List String)
    (literal : StringLiteral) : Except DecodeError String :=
  match literalText literal with
  | .error e => .error e
  | .ok name =>
      if name ∈ known then .ok name
      else .error (.mismatch (.unknownVariant name known))

/- The end of an object that holds nothing but a choice. -/
def choiceEnd : DraftMembers → Except DecodeError Unit
  | .ended .closed => .ok ()
  | .ended .textEnd => .error (.fault .endInObject)
  | _ => .error (.fault .expectedValue)

/- A choice written as an object whose only member has no
   content. -/
def choiceMember
    (known : List String)
    (room : Nat)
    (members : DraftMembers) : Except DecodeError String :=
  match members with
  | .ended .textEnd => .error (.fault .endInValue)
  | .ended _ => .error (.fault .expectedValue)
  | .badKey key =>
      .error (wrongType key "variant identifier")
  | .keyOnly key textEnds =>
      match variant known key with
      | .error e => .error e
      | .ok _ => .error (.fault (colonFault textEnds))
  | .member key value rest =>
      match variant known key with
      | .error e => .error e
      | .ok name =>
          match unit room value with
          | .error e => .error e
          | .ok _ =>
              match choiceEnd rest with
              | .error e => .error e
              | .ok _ => .ok name

/- A choice among names. -/
def choice (known : List String) : Decoder String :=
  fun room draft =>
    match draft with
    | .missing => .error (.fault .endInValue)
    | .string literal => variant known literal
    | .object members =>
        if room = 0 then .error (.fault .tooDeep)
        else choiceMember known (room - 1) members
    | _ => .error (.fault .expectedValue)

------------------------------------------------------------
-- Texts
------------------------------------------------------------

/- The value that a text holds, and nothing else. -/
def decodeText
    (decoder : Decoder α)
    (text : String) : Except DecodeError α :=
  let document := JsonDocument.ofText text
  match decoder maxDepth document.root with
  | .error e => .error e
  | .ok value =>
      if document.hasMore then .error (.fault .trailingText)
      else .ok value

end Decoder

end LatencySweep
