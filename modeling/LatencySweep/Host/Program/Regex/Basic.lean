import LatencySweep.Host.Program.CharClass

/-
  Regular expressions and the texts that they match.

  A match starts as far to the left as possible and is then
  as long as possible. Groups remember the part of the text
  that they matched last. Only the stand-ins for tools use
  them.

  Key definitions include:
    * `Regex`
    * `Regex.ends`
    * `Regex.findFrom?`
-/

namespace LatencySweep

/- A place between characters. -/
inductive Anchor where
  | start
  | stop
  | wordStart
  | wordStop
  | wordEdge
  | noWordEdge
  | noWordBefore
  | noWordBehind
  deriving DecidableEq

/- A regular expression. -/
inductive Regex where
  | empty
  | char (c : Char)
  | anyChar
  | set (s : CharSet)
  | anchor (place : Anchor)
  | seq (first second : Regex)
  | alt (first second : Regex)
  | repeated (body : Regex) (least : Nat) (most : Option Nat)
  | group (number : Nat) (body : Regex)
  | same (number : Nat)
  deriving DecidableEq

namespace Regex

/- How far a text was matched: the character before, what is
   left, how much was taken, and what groups matched. -/
structure Progress where
  before : Option Char
  rest : List Char
  taken : Nat
  groups : List (Nat × List Char)

/- A character of a word. -/
def isWordChar (c : Char) : Bool := c.isAlphanum || c = '_'

namespace Progress

/- The progress after one more character. -/
def step (p : Progress) : Progress :=
  match p.rest with
  | [] => p
  | c :: rest =>
      { p with before := some c, rest, taken := p.taken + 1 }

/- The progress after some more characters. -/
def skip (p : Progress) : Nat → Progress
  | 0 => p
  | n + 1 => skip p.step n

/- What was matched since an earlier progress. -/
def since (p earlier : Progress) : List Char :=
  earlier.rest.take (p.taken - earlier.taken)

/- A place has what an anchor asks for. -/
def isAt (p : Progress) (place : Anchor) : Bool :=
  let left := (p.before.map isWordChar).getD false
  let right := (p.rest.head?.map isWordChar).getD false
  match place with
  | .start => p.before.isNone
  | .stop => p.rest.isEmpty
  | .wordStart => !left && right
  | .wordStop => left && !right
  | .wordEdge => left != right
  | .noWordEdge => left == right
  | .noWordBefore => !left
  | .noWordBehind => !right

end Progress

/- Of several ways to come equally far, the first one. -/
def withoutRepeats : List Progress → List Progress
  | [] => []
  | p :: rest =>
      p :: (withoutRepeats rest).filter fun q =>
        q.taken ≠ p.taken

/- Repeat a step, often first. Steps that take nothing are
   only made as long as they are needed. -/
def repeatEnds
    (step : Progress → List Progress) :
    Nat → Nat → Option Nat → Progress → List Progress
  | 0, _, _, p => [p]
  | n + 1, least, most, p =>
      let stopped := if least = 0 then [p] else []
      if most = some 0 then stopped
      else
        let further := (step p).filter fun q =>
          p.taken < q.taken || 0 < least
        let ends := further.flatMap
          (repeatEnds step n (least - 1)
            (most.map fun m => m - 1))
        withoutRepeats (ends ++ stopped)

/- Two characters count as the same. -/
def sameChar (ignoresCase : Bool) (a b : Char) : Bool :=
  a = b || ignoresCase && a.toLower = b.toLower

/- All ways to match from a place on, preferred ones
   first. -/
def ends (ignoresCase : Bool) :
    Regex → Progress → List Progress
  | .empty, p => [p]
  | .char c, p =>
      match p.rest with
      | d :: _ => if sameChar ignoresCase c d then [p.step] else []
      | [] => []
  | .anyChar, p => if p.rest = [] then [] else [p.step]
  | .set s, p =>
      match p.rest with
      | d :: _ =>
          let inSet := s.has d ||
            ignoresCase && (s.has d.toLower || s.has d.toUpper)
          if inSet then [p.step] else []
      | [] => []
  | .anchor place, p => if p.isAt place then [p] else []
  | .seq first second, p =>
      withoutRepeats
        ((ends ignoresCase first p).flatMap
          (ends ignoresCase second))
  | .alt first second, p =>
      withoutRepeats
        (ends ignoresCase first p ++ ends ignoresCase second p)
  | .repeated body least most, p =>
      repeatEnds (ends ignoresCase body)
        (p.rest.length + least + 1) least most p
  | .group number body, p =>
      (ends ignoresCase body p).map fun q =>
        { q with
          groups := (number, q.since p) ::
            q.groups.filter fun g => g.1 ≠ number }
  | .same number, p =>
      match p.groups.find? fun g => g.1 = number with
      | none => []
      | some g =>
          let text := p.rest.take g.2.length
          let fits := text.length = g.2.length ∧
            (text.zip g.2).all fun c =>
              sameChar ignoresCase c.1 c.2
          if fits then [p.skip g.2.length] else []

/- A part of a text that an expression matches. -/
structure Match where
  front : List Char
  matched : List Char
  behind : List Char
  groups : List (Nat × List Char)

/- The longest match at a place. -/
def longest (ps : List Progress) : Option Progress :=
  ps.foldl
    (fun best p =>
      match best with
      | none => some p
      | some b => if b.taken < p.taken then some p else some b)
    none

/- The longest match that starts at a place. The reversed
   text in front of it is given. -/
def matchAt?
    (ignoresCase : Bool)
    (r : Regex)
    (before : Option Char)
    (front rest : List Char) : Option Match :=
  let start : Progress := ⟨before, rest, 0, []⟩
  (longest (r.ends ignoresCase start)).map fun p =>
    { front := front.reverse, matched := p.since start
      behind := p.rest, groups := p.groups }

/- The first match from a place on. -/
def findFrom?
    (ignoresCase : Bool)
    (r : Regex) :
    Option Char → List Char → List Char → Option Match
  | before, front, [] => matchAt? ignoresCase r before front []
  | before, front, c :: rest =>
      match matchAt? ignoresCase r before front (c :: rest) with
      | some found => some found
      | none =>
          findFrom? ignoresCase r (some c) (c :: front) rest

end Regex

end LatencySweep
