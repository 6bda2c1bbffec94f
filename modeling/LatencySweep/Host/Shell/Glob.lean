import LatencySweep.Host.Program.CharClass

/-
  Patterns with wildcards.

  A star stands for any text, a question mark for any
  character, and brackets hold a set of characters. Behind a
  backslash a character stands for itself.

  Key definitions include:
    * `Glob`
    * `Glob.read`
    * `Glob.accepts`
    * `Glob.cutFront`
    * `Glob.cutBack`
-/

namespace LatencySweep

/- A part of a pattern. -/
inductive GlobPart where
  | char (c : Char)
  | anyChar
  | anyText
  | set (s : CharSet)
  deriving DecidableEq

/- A pattern with wildcards. -/
abbrev Glob := List GlobPart

namespace Glob

------------------------------------------------------------
-- Reading
------------------------------------------------------------

/- The parts of a pattern. Each takes a character, so the
   first argument bounds their number. -/
def readFrom : Nat → List Char → Glob
  | 0, _ => []
  | _ + 1, [] => []
  | n + 1, '*' :: rest => .anyText :: readFrom n rest
  | n + 1, '?' :: rest => .anyChar :: readFrom n rest
  | n + 1, '\\' :: c :: rest => .char c :: readFrom n rest
  | n + 1, '[' :: rest =>
      match CharSet.span? true rest with
      | .ok (s, behind) => .set s :: readFrom n behind
      | .error _ => .char '[' :: readFrom n rest
  | n + 1, c :: rest => .char c :: readFrom n rest

/- The pattern that a text stands for. -/
def read (text : List Char) : Glob :=
  readFrom text.length text

/- The pattern has a wildcard. -/
def hasWildcard (g : Glob) : Bool :=
  g.any fun part =>
    match part with
    | .char _ => false
    | _ => true

------------------------------------------------------------
-- Matching
------------------------------------------------------------

/- A function holds of a text or of one of its ends. -/
def anyEnd (f : List Char → Bool) : List Char → Bool
  | [] => f []
  | c :: rest => f (c :: rest) || anyEnd f rest

/- A pattern stands for a text. -/
def accepts : Glob → List Char → Bool
  | [], text => text.isEmpty
  | .anyText :: g, text => anyEnd (accepts g) text
  | _ :: _, [] => false
  | .char d :: g, c :: rest => c = d && accepts g rest
  | .anyChar :: g, _ :: rest => accepts g rest
  | .set s :: g, c :: rest => s.has c && accepts g rest

------------------------------------------------------------
-- Cutting
------------------------------------------------------------

/- The text behind a front that a pattern accepts. Fronts of
   the given lengths are tried in their order. -/
def cutFrontAt? (g : Glob) (text : List Char) :
    List Nat → Option (List Char)
  | [] => none
  | n :: rest =>
      if accepts g (text.take n) then some (text.drop n)
      else cutFrontAt? g text rest

/- The text without the shortest or longest front that a
   pattern accepts. -/
def cutFront
    (g : Glob)
    (longest : Bool)
    (text : List Char) : List Char :=
  let lengths := List.range (text.length + 1)
  (cutFrontAt? g text
    (if longest then lengths.reverse else lengths)).getD text

/- The text in front of an end that a pattern accepts. Ends
   behind the given numbers of characters are tried. -/
def cutBackAt? (g : Glob) (text : List Char) :
    List Nat → Option (List Char)
  | [] => none
  | n :: rest =>
      if accepts g (text.drop n) then some (text.take n)
      else cutBackAt? g text rest

/- The text without the shortest or longest end that a
   pattern accepts. -/
def cutBack
    (g : Glob)
    (longest : Bool)
    (text : List Char) : List Char :=
  let lengths := List.range (text.length + 1)
  (cutBackAt? g text
    (if longest then lengths else lengths.reverse)).getD text

example :
    cutFront (read ['*', '/']) true "a/b/c".toList = ['c'] := by
  decide +kernel
example :
    cutBack (read ['.', '[', '!', 'a', ']', '*']) false
      "x.b.c".toList = "x.b".toList := by decide +kernel

end Glob

end LatencySweep
