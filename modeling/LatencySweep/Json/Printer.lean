import LatencySweep.Json.Basic
import LatencySweep.Number.Text

/-
  The text of JSON values.

  Text is written in one line or with every item on a line
  of its own, two blanks deeper than what holds it. Both
  forms are one printer with different gaps.

  Key definitions include:
    * `Json.Layout`
    * `Json.stringText`
    * `Json.write`
    * `Json.compact`
    * `Json.pretty`
-/

namespace LatencySweep

namespace Json

------------------------------------------------------------
-- Strings
------------------------------------------------------------

/- The four hexadecimal digits of a code below `0x10000`. -/
def fourHexDigits (code : Nat) : List Char :=
  let digits := Nat.toDigits 16 code
  List.replicate (4 - digits.length) '0' ++ digits

/- A character inside a string. -/
def stringChar (c : Char) : List Char :=
  match c with
  | '"' => ['\\', '"']
  | '\\' => ['\\', '\\']
  | '\x08' => ['\\', 'b']
  | '\x0c' => ['\\', 'f']
  | '\n' => ['\\', 'n']
  | '\r' => ['\\', 'r']
  | '\t' => ['\\', 't']
  | _ =>
      if c.toNat < 0x20 then
        ['\\', 'u'] ++ fourHexDigits c.toNat
      else [c]

/- A string between quotes. -/
def stringText (s : String) : List Char :=
  ['"'] ++ s.toList.flatMap stringChar ++ ['"']

------------------------------------------------------------
-- Values
------------------------------------------------------------

/- What stands in front of items and behind names. -/
structure Layout where
  gap : Nat → List Char
  colon : List Char

/- Everything in one line. -/
def Layout.oneLine : Layout :=
  { gap := fun _ => [], colon := [':'] }

/- Every item on its own line. -/
def Layout.indented : Layout :=
  { gap := fun depth =>
      '\n' :: List.replicate (2 * depth) ' '
    colon := [':', ' '] }

/- A number; only finite ones have a text. -/
def floatText (x : Binary64) : List Char :=
  if x.IsFinite then x.toLiteral.toList else "null".toList

mutual

/- A value that stands at a depth. -/
def write (layout : Layout) (depth : Nat) :
    Json → List Char
  | null => "null".toList
  | bool true => "true".toList
  | bool false => "false".toList
  | integer n => (toString n).toList
  | float x => floatText x
  | string s => stringText s
  | array [] => ['[', ']']
  | array (item :: rest) =>
      ['['] ++
        writeItems layout (depth + 1) (item :: rest) ++
        layout.gap depth ++ [']']
  | object [] => ['{', '}']
  | object (member :: rest) =>
      ['{'] ++
        writeMembers layout (depth + 1) (member :: rest) ++
        layout.gap depth ++ ['}']

/- The items of an array, with commas between them. -/
def writeItems (layout : Layout) (depth : Nat) :
    List Json → List Char
  | [] => []
  | [item] => layout.gap depth ++ write layout depth item
  | item :: next :: rest =>
      layout.gap depth ++ write layout depth item ++ [','] ++
        writeItems layout depth (next :: rest)

/- The members of an object, with commas between them. -/
def writeMembers (layout : Layout) (depth : Nat) :
    List (String × Json) → List Char
  | [] => []
  | [(name, value)] =>
      layout.gap depth ++ stringText name ++ layout.colon ++
        write layout depth value
  | (name, value) :: next :: rest =>
      layout.gap depth ++ stringText name ++ layout.colon ++
        write layout depth value ++ [','] ++
        writeMembers layout depth (next :: rest)

end

/- The value in one line. -/
def compact (value : Json) : String :=
  String.ofList (write .oneLine 0 value)

/- The value with every item on a line of its own. -/
def pretty (value : Json) : String :=
  String.ofList (write .indented 0 value)

example :
    compact (.array [.integer (-1), .object [], .null]) =
      "[-1,\x7b\x7d,null]" := by
  decide +kernel
example :
    pretty (.object [("a", .array [.bool true])]) =
      "\x7b\n  \"a\": [\n    true\n  ]\n\x7d" := by
  decide +kernel
example :
    String.ofList (stringText "\x01\x7fé") =
      "\"\\u0001\x7fé\"" := by
  decide +kernel

end Json

end LatencySweep
