import LatencySweep.Text.Utf8

/-
  Tables as text: rows of fields that are separated by
  tabs.

  A row ends at a line feed or at a carriage return, and
  empty lines are no rows. A field that starts with a quote
  may hold tabs and line ends up to the closing quote, and
  quotes written twice. A byte order mark in front of the
  table does not count.

  Key definitions include:
    * `Table.Position`
    * `Table.action`
    * `Table.rows`
    * `Table.ofRows`
-/

namespace LatencySweep

namespace Table

------------------------------------------------------------
-- Bytes with a Meaning
------------------------------------------------------------

/- The byte between fields. -/
def tab : UInt8 := 9

/- The byte around fields with special content. -/
def quoteMark : UInt8 := 34

/- A line feed or a carriage return. -/
def endsRow (byte : UInt8) : Bool :=
  byte = 10 || byte = 13

/- The bytes that may mark a text as UTF-8. -/
def byteOrderMark : Bytes := [0xEF, 0xBB, 0xBF]

------------------------------------------------------------
-- Reading
------------------------------------------------------------

/- Where in a table the next byte stands. -/
inductive Position where
  | betweenRows
  | fieldStart
  | plain
  | quoted
  | afterQuote
  deriving DecidableEq

/- What a byte does to the row that is being read. -/
inductive Action where
  | drop (next : Position)
  | take (next : Position)
  | endField
  | endRow
  deriving DecidableEq

/- What a byte outside quotes does. -/
def plainAction (byte : UInt8) : Action :=
  if byte = tab then .endField
  else if endsRow byte then .endRow
  else .take .plain

/- What a byte at the start of a field does. -/
def startAction (byte : UInt8) : Action :=
  if byte = quoteMark then .drop .quoted
  else plainAction byte

/- What a byte does at a position. -/
def action (position : Position) (byte : UInt8) : Action :=
  match position with
  | .betweenRows =>
      if endsRow byte then .drop .betweenRows
      else startAction byte
  | .fieldStart => startAction byte
  | .plain => plainAction byte
  | .quoted =>
      if byte = quoteMark then .drop .afterQuote
      else .take .quoted
  | .afterQuote =>
      if byte = quoteMark then .take .quoted
      else plainAction byte

/-
  The rows of the rest of a table, given the finished
  fields of the current row and the bytes of its current
  field.
-/
def rowsFrom :
    Position → List Bytes → Bytes → Bytes → List (List Bytes)
  | .betweenRows, _, _, [] => []
  | _, fields, field, [] => [fields ++ [field]]
  | position, fields, field, byte :: rest =>
      match action position byte with
      | .drop next => rowsFrom next fields field rest
      | .take next =>
          rowsFrom next fields (field ++ [byte]) rest
      | .endField =>
          rowsFrom .fieldStart (fields ++ [field]) [] rest
      | .endRow =>
          (fields ++ [field]) ::
            rowsFrom .betweenRows [] [] rest

/- A text without its byte order mark. -/
def dropMark (content : Bytes) : Bytes :=
  if byteOrderMark.isPrefixOf content then
    content.drop byteOrderMark.length
  else content

/- The rows of a table. -/
def rows (content : Bytes) : List (List Bytes) :=
  rowsFrom .betweenRows [] [] (dropMark content)

------------------------------------------------------------
-- Writing
------------------------------------------------------------

/- A row of fields that need no quotes. -/
def ofRow (fields : List String) : String :=
  String.intercalate "\t" fields ++ "\n"

/- A table of rows. -/
def ofRows (rows : List (List String)) : String :=
  String.join (rows.map ofRow)

example :
    rows (Bytes.ofText "\"a\"\"\t\"b\tc\r\n\n\"d") =
      ["a\"\tb", "c"].map Bytes.ofText ::
        [[Bytes.ofText "d"]] := by
  decide +kernel
example :
    rows (Bytes.ofText "a\t") =
      [[Bytes.ofText "a", []]] := by
  decide +kernel

end Table

end LatencySweep
