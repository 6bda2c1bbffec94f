import LatencySweep.Host.Shell.Arithmetic
import LatencySweep.Host.Shell.Field
import LatencySweep.Host.Shell.State

/-
  What words stand for.

  Parameters are replaced by their values, commands by their
  output and sums by their results. How commands inside of
  words are run is given from outside. Words are nested; an
  expander of one level uses that of the next one.

  Key definitions include:
    * `Shell.Expansion`
    * `Shell.Expander`
    * `Shell.expandFields`
    * `Shell.expandText`
    * `Shell.expandPattern`
-/

namespace LatencySweep

namespace Shell

------------------------------------------------------------
-- Parameters
------------------------------------------------------------

/- Where a word stands: whether it is quoted, whether it
   makes several fields, whether its plain text may be
   divided, and where a tilde is a home directory. -/
structure Place where
  quoted : Bool := false
  several : Bool := false
  divides : Bool := false
  tildeFirst : Bool := false
  tildeBehindColon : Bool := false

/- The characters that divide fields. -/
def State.dividers (s : State) : List Char :=
  match s.value? "IFS" with
  | some text => text.toList
  | none => [' ', '\t', '\n']

/- What stands between arguments that are put together. -/
def State.joiner (s : State) : List Char :=
  match s.value? "IFS" with
  | some text => text.toList.take 1
  | none => [' ']

/- The letters of the options that are on. -/
def State.optionText (s : State) : String :=
  String.ofList
    (("efIimnsxvVECabu".toList.reverse).filter fun c =>
      s.hasOption c)

/- The value of a parameter other than the list of all
   arguments. -/
def State.parameter? (s : State) (name : String) :
    Option String :=
  match name with
  | "#" => some (toString s.args.length)
  | "?" => some (toString s.status)
  | "-" => some s.optionText
  | "$" => some (toString s.number)
  | "!" => s.lastJob.map toString
  | name =>
      if name.toList.all Char.isDigit then
        match digitsValue name.toList with
        | 0 => some s.name
        | n + 1 => s.args[n]?
      else s.value? name

/- The name stands for the list of all arguments. -/
def isArgumentList (name : String) : Bool :=
  name = "@" || name = "*"

/- The items of all arguments, with others in between. -/
def joinItems (between : List Item) :
    List (List Item) → List Item
  | [] => []
  | [items] => items
  | items :: rest => items ++ between ++ joinItems between rest

/- The items of the list of all arguments. -/
def State.argumentItems
    (s : State)
    (place : Place)
    (name : String) : List Item :=
  let items (arg : String) : List Item :=
    Item.ofText place.quoted (!place.quoted) arg.toList
  if place.several && place.quoted && name = "@" then
    joinItems [.next]
      (s.args.map fun arg => Item.mark :: items arg)
  else if place.several && !place.quoted then
    joinItems [.gap] (s.args.map items)
  else
    joinItems
      (Item.ofText place.quoted (!place.quoted) s.joiner)
      (s.args.map items)

/- The items of the value of a parameter. -/
def State.valueItems?
    (s : State)
    (place : Place)
    (name : String) : Option (List Item) :=
  if isArgumentList name then
    some (s.argumentItems place name)
  else
    (s.parameter? name).map fun value =>
      Item.ofText place.quoted (!place.quoted) value.toList

/- How long the value of a parameter is. -/
def State.valueLength
    (s : State)
    (place : Place)
    (name : String) : Nat :=
  if isArgumentList name then
    let total :=
      s.args.foldl (fun n arg => n + arg.length) 0
    let joined := place.several || s.joiner ≠ []
    if joined then total + (s.args.length - 1) else total
  else ((s.parameter? name).getD "").length

------------------------------------------------------------
-- Tildes
------------------------------------------------------------

/- The home directory of a user, or of the current one. -/
def State.home? (s : State) (user : String) : Option String :=
  if user = "" then s.value? "HOME"
  else if user = "root" then some "/root"
  else none

/- The plain text of a piece, with a home directory for a
   tilde at its front. The name behind the tilde has to end
   in the piece. -/
def State.tildeItems
    (s : State)
    (place : Place)
    (isLast : Bool)
    (content : List Char) : List Item :=
  let plain := Item.ofText place.quoted place.divides content
  match content with
  | '~' :: rest =>
      let inUser (c : Char) : Bool :=
        c ≠ '/' && !(place.tildeBehindColon && c = ':')
      let user := rest.takeWhile inUser
      let behind := rest.dropWhile inUser
      if behind = [] && !isLast then plain
      else
        match s.home? (String.ofList user) with
        | some home =>
            Item.ofText true false home.toList ++
              Item.ofText place.quoted place.divides behind
        | none => plain
  | _ => plain

/- The pieces of a text, each but the last one with the
   colon behind it. -/
def colonPieces (text : List Char) : List (List Char) :=
  let pieces := text.splitOn ':'
  pieces.dropLast.map (· ++ [':']) ++
    pieces.getLast?.toList

/- The items of plain text. -/
def State.plainItems
    (s : State)
    (place : Place)
    (isFirst isLast : Bool)
    (content : List Char) : List Item :=
  if place.tildeBehindColon then
    match colonPieces content with
    | [] => []
    | first :: rest =>
        (if isFirst then s.tildeItems place isLast first
        else Item.ofText place.quoted place.divides first) ++
          rest.flatMap (s.tildeItems place isLast)
  else if place.tildeFirst && isFirst then
    s.tildeItems place isLast content
  else Item.ofText place.quoted place.divides content

------------------------------------------------------------
-- Expanding
------------------------------------------------------------

/- How the pieces of a word are expanded. -/
abbrev Expander := Place → Word → Action (List Item)

/- The text of items. -/
def itemsText (items : List Item) : String :=
  String.ofList (Item.text items)

/- The output of a command without the line ends behind
   it. -/
def trimmedOutput (output : String) : List Char :=
  ((output.toList.filter (· ≠ '\x00')).reverse.dropWhile
    (· = '\n')).reverse

/- The items of an arithmetic expression. -/
def sumItems (place : Place) (text : String) :
    Action (List Item) := do
  let s ← get
  let textOf (name : String) : String :=
    (s.value? name).getD ""
  match Sum.valueOfText textOf text.toList with
  | .error (.malformed problem) =>
      fail s!"arithmetic expression: {problem}: \"{text}\""
  | .error (.noNumber other) => fail s!"Illegal number: {other}"
  | .ok (n, bindings) =>
      bindings.reverse.forM fun (name, value) =>
        assign name (toString value)
      return Item.ofText place.quoted (!place.quoted)
        (toString n).toList

/- Stop because a parameter is missing. -/
def failMissing {α : Type}
    (name : String)
    (missing : Missing)
    (word : Option String) : Action α := do
  match word, missing with
  | some problem, _ => fail s!"{name}: {problem}"
  | none, .unset => fail s!"{name}: parameter not set"
  | none, .unsetOrEmpty =>
      fail s!"{name}: parameter not set or null"

/- The items of a parameter. A word that takes the place of
   the value is expanded as it stands there. -/
def parameterItems
    (expand : Expander)
    (place : Place)
    (name : String)
    (use : ParameterUse) : Action (List Item) := do
  let s ← get
  let value? := s.valueItems? place name
  let given (missing : Missing) : Bool :=
    match value?, missing with
    | none, _ => false
    | some _, .unset => true
    | some items, .unsetOrEmpty => Item.text items ≠ []
  let inPlace (word : Word) : Action (List Item) :=
    expand
      { place with
        divides := !place.quoted && place.several
        tildeFirst := !place.quoted } word
  let asText (word : Word) : Action String := do
    return itemsText
      (← expand
        { quoted := place.quoted
          tildeFirst := !place.quoted } word)
  let required : Action (List Item) :=
    match value? with
    | some items => return items
    | none =>
        if s.hasOption 'u' then failMissing name .unset none
        else return []
  match use with
  | .malformed => fail "Bad substitution"
  | .value => required
  | .length =>
      let _ ← required
      return Item.ofText place.quoted (!place.quoted)
        (toString (s.valueLength place name)).toList
  | .orElse missing word =>
      if given missing then return value?.getD []
      else inPlace word
  | .ifGiven missing word =>
      if given missing then inPlace word else return []
  | .orAssign missing word =>
      if given missing then return value?.getD []
      else
        assign name (← asText word)
        return ((← get).valueItems? place name).getD []
  | .orFail missing word =>
      if given missing then return value?.getD []
      else if word.isEmpty then failMissing name missing none
      else failMissing name missing (some (← asText word))
  | .cut edge longest word =>
      let items ← required
      let pattern := Glob.read
        (Item.patternText (← expand { tildeFirst := true } word))
      let cut : List Char → List Char :=
        match edge with
        | .front => Glob.cutFront pattern longest
        | .back => Glob.cutBack pattern longest
      return Item.ofText place.quoted (!place.quoted)
        (cut (Item.text items))

/- The items of one piece of a word. -/
def pieceItems
    (output : Command → Action String)
    (expand : Expander)
    (place : Place)
    (isFirst isLast : Bool) :
    Piece → Action (List Item)
  | .plain content => do
      return (← get).plainItems place isFirst isLast content
  | .literal content =>
      return .mark :: Item.ofText true false content
  | .quoted [.parameter "@" .value] =>
      expand { place with quoted := true }
        [.parameter "@" .value]
  | .quoted pieces => do
      return .mark ::
        (← expand { place with quoted := true } pieces)
  | .parameter name use => parameterItems expand place name use
  | .output body => do
      return Item.ofText place.quoted (!place.quoted)
        (trimmedOutput (← output body))
  | .arithmetic pieces => do
      let items ← expand { quoted := true } pieces
      sumItems place (itemsText items)

/- The items of the pieces of a word. -/
def piecesItems
    (output : Command → Action String)
    (expand : Expander)
    (place : Place) :
    Bool → Word → Action (List Item)
  | _, [] => return []
  | isFirst, piece :: rest => do
      let items ←
        pieceItems output expand place isFirst rest.isEmpty
          piece
      return items ++
        (← piecesItems output expand place false rest)

/- The expander for words with a number of levels. -/
def expander (output : Command → Action String) :
    Nat → Expander
  | 0, _, _ => return []
  | n + 1, place, word =>
      piecesItems output (expander output n) place true word

/- The greatest number of levels in a word. -/
def wordLevels : Nat := 500

------------------------------------------------------------
-- Words
------------------------------------------------------------

/- The fields that a word stands for. -/
def expandFields
    (output : Command → Action String)
    (word : Word) : Action (List String) := do
  let items ← expander output wordLevels
    { several := true, tildeFirst := true } word
  let s ← get
  let fields := divideFields s.dividers items
  return if s.hasOption 'f' then fields.map fieldText
    else fields.flatMap (pathsOf s.machine.tree)

/- The text that a word stands for. -/
def expandText
    (output : Command → Action String)
    (word : Word) : Action String := do
  return itemsText
    (← expander output wordLevels { tildeFirst := true } word)

/- The value that a word gives to a variable. -/
def expandValue
    (output : Command → Action String)
    (word : Word) : Action String := do
  return itemsText
    (← expander output wordLevels
      { tildeFirst := true, tildeBehindColon := true } word)

/- The content of a document. -/
def expandDocument
    (output : Command → Action String)
    (word : Word) : Action String := do
  return itemsText
    (← expander output wordLevels { quoted := true } word)

/- The pattern that a word stands for. -/
def expandPattern
    (output : Command → Action String)
    (word : Word) : Action Glob := do
  return Glob.read
    (Item.patternText
      (← expander output wordLevels { tildeFirst := true }
        word))

end Shell

end LatencySweep
