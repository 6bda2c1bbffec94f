import LatencySweep.Host.Housekeeping
import LatencySweep.Host.Shell.Glob
import LatencySweep.Text.Raw

/-
  The fields that expanded words are divided into.

  An expanded word is a list of items. Characters know
  whether they were quoted and whether they may divide
  fields. Marks keep fields that are empty. At last, fields
  with wildcards are replaced by the paths that they stand
  for.

  Key definitions include:
    * `Shell.Item`
    * `Shell.divideFields`
    * `Shell.FieldText`
    * `Shell.pathsOf`
-/

namespace LatencySweep

namespace Shell

------------------------------------------------------------
-- Items
------------------------------------------------------------

/- A part of an expanded word. The next argument starts
   behind `next`, and behind `gap` only if it is not
   empty. -/
inductive Item where
  | char (c : Char) (escaped splits : Bool)
  | mark
  | next
  | gap
  deriving DecidableEq

namespace Item

/- The items of a text. -/
def ofText
    (escaped splits : Bool)
    (text : List Char) : List Item :=
  text.map fun c => char c escaped splits

/- The characters of items. -/
def text (items : List Item) : List Char :=
  items.filterMap fun item =>
    match item with
    | char c _ _ => some c
    | _ => none

/- The items as the text of a pattern. -/
def patternText (items : List Item) : List Char :=
  items.flatMap fun item =>
    match item with
    | char c true _ => ['\\', c]
    | char c false _ => [c]
    | _ => []

end Item

------------------------------------------------------------
-- Dividing
------------------------------------------------------------

/- A field: its characters, and whether each was quoted. -/
abbrev FieldText := List (Char × Bool)

/- A field that is being put together. It is there if it has
   characters or a mark. A divider that is no blank belongs
   to a blank in front of it. -/
structure Division where
  field : FieldText := []
  isThere : Bool := false
  afterBlank : Bool := false
  fields : List FieldText := []

namespace Division

/- End the field even if it is empty. -/
def cut (d : Division) : Division :=
  { field := [], isThere := false, afterBlank := false
    fields := d.fields ++ [d.field] }

/- End the field if it is there. -/
def blank (d : Division) : Division :=
  if d.isThere then { d.cut with afterBlank := true } else d

/- End the field at a divider that is no blank. -/
def divider (d : Division) : Division :=
  if d.afterBlank then { d with afterBlank := false } else d.cut

/- Put a character into the field. -/
def add (d : Division) (c : Char) (escaped : Bool) : Division :=
  { d with
    field := d.field ++ [(c, escaped)], isThere := true
    afterBlank := false }

/- A blank among the characters that divide fields. -/
def isBlankDivider (c : Char) : Bool :=
  c = ' ' || c = '\t' || c = '\n'

/- Take an item. -/
def take (dividers : List Char) (d : Division) :
    Item → Division
  | .mark => { d with isThere := true, afterBlank := false }
  | .next => d.cut
  | .gap => d.blank
  | .char c escaped splits =>
      if !splits || !dividers.contains c then d.add c escaped
      else if isBlankDivider c then d.blank
      else d.divider

/- All fields, the last one only if it is there. -/
def finish (d : Division) : List FieldText :=
  if d.isThere then d.fields ++ [d.field] else d.fields

end Division

/- The fields of items, divided at some characters. -/
def divideFields
    (dividers : List Char)
    (items : List Item) : List FieldText :=
  (items.foldl (Division.take dividers) {}).finish

example :
    divideFields [':', ' ']
        (Item.ofText false true "a: b::".toList) =
      [[('a', false)], [('b', false)], []] := by
  decide +kernel
example :
    divideFields [' '] [.mark, .char 'a' true false] =
      [[('a', true)]] := by decide +kernel

------------------------------------------------------------
-- Wildcards
------------------------------------------------------------

/- The text of a field. -/
def fieldText (field : FieldText) : String :=
  String.ofList (field.map Prod.fst)

/- The text of a field as a pattern. -/
def fieldPattern (field : FieldText) : List Char :=
  field.flatMap fun (c, escaped) =>
    if escaped then ['\\', c] else [c]

/- The parts of a field between separators. -/
def fieldParts : FieldText → List FieldText
  | [] => [[]]
  | (c, escaped) :: rest =>
      match fieldParts rest with
      | [] => []
      | part :: others =>
          if c = '/' then [] :: part :: others
          else ((c, escaped) :: part) :: others

/- The names in a directory that a pattern accepts. Names
   with a leading dot only match a leading dot. -/
def matchingNames
    (tree : FileTree)
    (front : String)
    (pattern : List Char) : List String :=
  let dir : Path :=
    ⟨if front = "" then "." else textOfRaw front⟩
  match tree.entryAt dir with
  | .ok (target, .directory) =>
      let wantsDot := pattern.head? = some '.' ||
        pattern.take 2 = ['\\', '.']
      let names := (tree.children target.location).map rawOfText
      let all := if wantsDot then "." :: ".." :: names else names
      all.filter fun name =>
        (wantsDot || name.toList.head? ≠ some '.') &&
          Glob.accepts (Glob.read pattern) name.toList
  | _ => []

/- The paths that a front and the parts behind it stand
   for. -/
def pathsFrom (tree : FileTree) :
    List FieldText → String → List String
  | [], front =>
      if tree.holds ⟨textOfRaw front⟩ then [front] else []
  | [part], front =>
      let pattern := fieldPattern part
      if Glob.hasWildcard (Glob.read pattern) then
        (matchingNames tree front pattern).map (front ++ ·)
      else
        let path := front ++ fieldText part
        if tree.holds ⟨textOfRaw path⟩ then [path] else []
  | part :: rest, front =>
      let pattern := fieldPattern part
      if Glob.hasWildcard (Glob.read pattern) then
        (matchingNames tree front pattern).flatMap fun name =>
          pathsFrom tree rest (front ++ name ++ "/")
      else pathsFrom tree rest (front ++ fieldText part ++ "/")

/- The paths that a field stands for, in order, if it has
   wildcards and there are such paths; else its text. -/
def pathsOf (tree : FileTree) (field : FieldText) :
    List String :=
  let pattern := fieldPattern field
  if Glob.hasWildcard (Glob.read pattern) then
    match pathsFrom tree (fieldParts field) "" with
    | [] => [fieldText field]
    | paths => paths.mergeSort fun a b => decide (a ≤ b)
  else [fieldText field]

end Shell

end LatencySweep
