import LatencySweep.Json.Decode

/-
  Decoding records: objects with known fields.

  A record is written as an object, or as a list of its
  fields in order. Unknown members of an object are
  skipped. First the text is gone through and every field
  is checked where it stands; then the values are taken
  field by field, so what is missing is noticed last.

  Key definitions include:
    * `Field`
    * `FieldDrafts`
    * `Decoder.fields`
    * `FieldDrafts.required`
    * `FieldDrafts.optional`
-/

namespace LatencySweep

------------------------------------------------------------
-- Fields
------------------------------------------------------------

/- A field: its name, whether it has to be there, and a
   check of its value. -/
structure Field where
  name : String
  isRequired : Bool
  check : Nat → Draft → Except DecodeError Unit

/- A check that a value can be decoded. -/
def Decoder.check
    {α : Type}
    (decoder : Decoder α)
    (room : Nat)
    (draft : Draft) : Except DecodeError Unit :=
  (decoder room draft).map fun _ => ()

/- A field that has to be there. -/
def Field.required
    {α : Type}
    (name : String)
    (decoder : Decoder α) : Field :=
  { name, isRequired := true, check := decoder.check }

/- A field that has a default. -/
def Field.optional
    {α : Type}
    (name : String)
    (decoder : Decoder α) : Field :=
  { name, isRequired := false, check := decoder.check }

/- A record's name and its fields in order. -/
structure RecordShape where
  name : String
  fields : List Field

namespace RecordShape

/- What a value should be to be such a record. -/
def expected (shape : RecordShape) : String :=
  s!"struct {shape.name}"

/- What a list should be to be such a record. -/
def expectedItems (shape : RecordShape) : String :=
  s!"struct {shape.name} with " ++
    s!"{shape.fields.length} elements"

/- The field of a name. -/
def field?
    (shape : RecordShape)
    (name : String) : Option Field :=
  shape.fields.find? fun field => field.name = name

end RecordShape

------------------------------------------------------------
-- Checked Drafts
------------------------------------------------------------

/- The checked values of a record, under the names of their
   fields, and the levels they may be nested. -/
structure FieldDrafts where
  room : Nat
  values : List (String × Draft)

namespace FieldDrafts

variable {α : Type}

/- The value of a field that has to be there. -/
def required
    (drafts : FieldDrafts)
    (name : String)
    (decoder : Decoder α) : Except DecodeError α :=
  match drafts.values.lookup name with
  | none => .error (.mismatch (.missingField name))
  | some draft => decoder drafts.room draft

/- The value of a field that has a default. -/
def optional
    (drafts : FieldDrafts)
    (name : String)
    (default : α)
    (decoder : Decoder α) : Except DecodeError α :=
  match drafts.values.lookup name with
  | none => .ok default
  | some draft => decoder drafts.room draft

end FieldDrafts

------------------------------------------------------------
-- Records as Objects
------------------------------------------------------------

namespace Decoder

/- A name that may not come twice among the fields. -/
def newName
    (shape : RecordShape)
    (seen : List String)
    (key : StringLiteral) : Except DecodeError String :=
  match literalText key with
  | .error e => .error e
  | .ok name =>
      if (shape.field? name).isSome ∧ name ∈ seen then
        .error (.mismatch (.duplicateField name))
      else .ok name

/- Check the value of a field, or skip the value of an
   unknown member. -/
def checkMember
    (shape : RecordShape)
    (room : Nat)
    (name : String)
    (value : Draft) : Except DecodeError Unit :=
  match shape.field? name with
  | none => refuse value.skipFault?
  | some field => field.check room value

/- The checked members of an object, given the names seen
   so far. -/
def members
    (shape : RecordShape)
    (room : Nat)
    (seen : List String) :
    DraftMembers →
      Except DecodeError (List (String × Draft))
  | .ended ending =>
      match ending.readFault? with
      | some fault => .error (.fault fault)
      | none => .ok []
  | .badKey _ => .error (.fault .keyNotString)
  | .keyOnly key textEnds =>
      match newName shape seen key with
      | .error e => .error e
      | .ok _ => .error (.fault (colonFault textEnds))
  | .member key value rest =>
      match newName shape seen key with
      | .error e => .error e
      | .ok name =>
          match checkMember shape room name value with
          | .error e => .error e
          | .ok _ =>
              match members shape room (name :: seen) rest with
              | .error e => .error e
              | .ok others => .ok ((name, value) :: others)

------------------------------------------------------------
-- Records as Lists
------------------------------------------------------------

/- The checked items of a list, given the fields that are
   left and the place of the first of them. -/
def positions
    (shape : RecordShape)
    (room index : Nat) :
    List Field → DraftItems →
      Except DecodeError (List (String × Draft))
  | [], items =>
      match refuse items.closeFault? with
      | .error e => .error e
      | .ok _ => .ok []
  | field :: fields, .ended ending =>
      match ending.readFault? with
      | some fault => .error (.fault fault)
      | none =>
          if field.isRequired then
            .error
              (.mismatch (.length index shape.expectedItems))
          else
            positions shape room (index + 1) fields
              (.ended ending)
  | field :: fields, .item value rest =>
      match field.check room value with
      | .error e => .error e
      | .ok _ =>
          match positions shape room (index + 1) fields
              rest with
          | .error e => .error e
          | .ok others => .ok ((field.name, value) :: others)

/- The checked fields of a record. -/
def fields (shape : RecordShape) : Decoder FieldDrafts :=
  fun room draft =>
    match draft with
    | .list items =>
        if room = 0 then .error (.fault .tooDeep)
        else
          (positions shape (room - 1) 0 shape.fields items).map
            fun values => { room := room - 1, values }
    | .object given =>
        if room = 0 then .error (.fault .tooDeep)
        else
          (members shape (room - 1) [] given).map
            fun values => { room := room - 1, values }
    | _ => .error (wrongType draft shape.expected)

end Decoder

end LatencySweep
