import LatencySweep.Text.Printable

/-
  Text in double quotes, the form in which messages show a
  path.

  Quotes, backslashes and the usual controls are escaped
  with a backslash. Every other character that cannot be
  seen on its own is written as its code point in braces.

  Key definitions include:
    * `escapedChar`
    * `quoted`
-/

namespace LatencySweep

------------------------------------------------------------
-- Escapes
------------------------------------------------------------

/- Lowercase hexadecimal digits, without leading zeros. -/
def hexDigits (n : Nat) : List Char :=
  Nat.toDigits 16 n

/- A character written as its code point in braces. -/
def codePointEscape (c : Char) : List Char :=
  ['\\', 'u', '{'] ++ hexDigits c.toNat ++ ['}']

/- A character as it stands inside quotes. -/
def escapedChar (c : Char) : List Char :=
  match c with
  | '\x00' => ['\\', '0']
  | '\t' => ['\\', 't']
  | '\r' => ['\\', 'r']
  | '\n' => ['\\', 'n']
  | '"' => ['\\', '"']
  | '\\' => ['\\', '\\']
  | _ =>
      if extendsGrapheme c || isHidden c then
        codePointEscape c
      else [c]

------------------------------------------------------------
-- Quoted Text
------------------------------------------------------------

/- The text in double quotes. -/
def quoted (text : String) : String :=
  String.ofList
    (['"'] ++ text.toList.flatMap escapedChar ++ ['"'])

example : quoted "out/d" = "\"out/d\"" := by
  decide +kernel
example : quoted "a\tb'" = "\"a\\tb'\"" := by
  decide +kernel
example : (quoted "e\u0301").length = 10 := by
  decide +kernel

end LatencySweep
