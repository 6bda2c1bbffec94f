import LatencySweep.Json.Draft

/-
  Reading JSON text into a draft.

  Every step returns the text behind what it has read,
  which is never longer than the text it was given, so
  reading comes to an end. Behind a fault no text is left.

  Key definitions include:
    * `Draft.readValue`
    * `JsonDocument`
    * `JsonDocument.ofText`
-/

namespace LatencySweep

namespace Draft

------------------------------------------------------------
-- Blanks and Words
------------------------------------------------------------

/- A blank between parts of a JSON text. -/
def isGap (c : Char) : Bool :=
  c = ' ' || c = '\n' || c = '\t' || c = '\r'

/- A text without the blanks in front. -/
def trim (text : List Char) : List Char :=
  text.dropWhile isGap

theorem length_trim_le (text : List Char) :
    (trim text).length ≤ text.length :=
  (List.dropWhile_sublist _).length_le

theorem length_lt_of_trim
    {text rest : List Char} {c : Char}
    (h : trim text = c :: rest) :
    rest.length < text.length := by
  have := length_trim_le text
  simp only [h, List.length_cons] at this
  omega

/- The text behind the rest of a word. -/
def scanWord :
    List Char → List Char → Except WordFault (List Char)
  | [], text => .ok text
  | _ :: _, [] => .error .textEnd
  | expected :: word, c :: text =>
      if c = expected then scanWord word text
      else .error .wrongWord

theorem length_scanWord_le
    {word text rest : List Char}
    (h : scanWord word text = .ok rest) :
    rest.length ≤ text.length := by
  fun_induction scanWord word text with
  | case1 text =>
      simp only [Except.ok.injEq] at h
      simp [h]
  | case2 => exact absurd h (by simp)
  | case3 word c text ih =>
      have := ih h
      simp only [List.length_cons]
      omega
  | case4 => exact absurd h (by simp)

------------------------------------------------------------
-- Scalars
------------------------------------------------------------

/- A value spelled by a word whose first letter is read. -/
def readWord
    (value : Draft)
    (word text : List Char) : Draft × List Char :=
  match scanWord word text with
  | .error fault => (.broken fault, [])
  | .ok rest => (value, rest)

/- A number. -/
def readNumber (text : List Char) : Draft × List Char :=
  match Numeral.scan text with
  | .error fault => (.number (.error fault), [])
  | .ok (numeral, rest) =>
      (.number (.ok numeral.value), rest)

/- A string whose opening quote is read. -/
def readString (text : List Char) : Draft × List Char :=
  let (literal, rest) := StringLiteral.scan text
  (.string literal, rest)

/- A value that starts with the given character and is
   neither a list nor an object. -/
def readScalar
    (c : Char)
    (text : List Char) : Draft × List Char :=
  if c = 'n' then readWord .null ['u', 'l', 'l'] text
  else if c = 't' then
    readWord (.bool true) ['r', 'u', 'e'] text
  else if c = 'f' then
    readWord (.bool false) ['a', 'l', 's', 'e'] text
  else if c = '"' then readString text
  else if c = '-' ∨ isDigit c then readNumber (c :: text)
  else (.broken .noValue, [])

theorem length_readWord_le
    (value : Draft)
    (word text : List Char) :
    (readWord value word text).2.length ≤ text.length := by
  unfold readWord
  split
  · simp
  · rename_i h
    exact length_scanWord_le h

theorem length_readScalar_le
    (c : Char)
    (text : List Char) :
    (readScalar c text).2.length ≤ text.length + 1 := by
  have hWord := fun value word =>
    length_readWord_le value word text
  have hString := StringLiteral.length_scan_le text
  unfold readScalar
  split
  · exact Nat.le_succ_of_le (hWord ..)
  · split
    · exact Nat.le_succ_of_le (hWord ..)
    · split
      · exact Nat.le_succ_of_le (hWord ..)
      · split
        · exact Nat.le_succ_of_le hString
        · split
          · unfold readNumber
            split
            · simp
            · rename_i h
              exact Numeral.length_scan_le h
          · simp

------------------------------------------------------------
-- Values
------------------------------------------------------------

/- Something read from a text and the text behind it. -/
abbrev Read (α : Type) (text : List Char) :=
  { r : α × List Char // r.2.length ≤ text.length }

/- Something with a fault, behind which no text is left. -/
def Read.last
    {α : Type}
    {text : List Char}
    (value : α) : Read α text :=
  ⟨(value, []), Nat.zero_le _⟩

/- What was read from a part of the text belongs to
   something larger. -/
def Read.within
    {α β : Type}
    {text part : List Char}
    (r : Read α part)
    (h : part.length ≤ text.length)
    (f : α → β) : Read β text :=
  ⟨(f r.1.1, r.1.2), Nat.le_trans r.2 h⟩

mutual

/- The value in front of a text. -/
def readValue (text : List Char) : Read Draft text :=
  match h : trim text with
  | [] => .last .missing
  | c :: rest =>
      have hLt := length_lt_of_trim h
      if c = '[' then
        (readList rest).within (Nat.le_of_lt hLt) .list
      else if c = '\x7b' then
        (readObject rest).within (Nat.le_of_lt hLt) .object
      else
        ⟨readScalar c rest,
          Nat.le_trans (length_readScalar_le c rest) hLt⟩
termination_by 3 * text.length

/- The items behind an opening bracket. -/
def readList (text : List Char) : Read DraftItems text :=
  match h : trim text with
  | [] => .last (.ended .textEnd)
  | c :: rest =>
      if c = ']' then
        ⟨(.ended .closed, rest),
          Nat.le_of_lt (length_lt_of_trim h)⟩
      else readItems text
termination_by 3 * text.length + 2

/- At least one item, and the end of the list. -/
def readItems (text : List Char) : Read DraftItems text :=
  let value := readValue text
  match h : trim value.1.2 with
  | [] => .last (.item value.1.1 (.ended .textEnd))
  | c :: rest =>
      have hLt : rest.length < text.length :=
        Nat.lt_of_lt_of_le (length_lt_of_trim h) value.2
      if c = ']' then
        ⟨(.item value.1.1 (.ended .closed), rest),
          Nat.le_of_lt hLt⟩
      else if c = ',' then
        if (trim rest).head? = some ']' then
          .last (.item value.1.1 (.ended .trailingComma))
        else
          (readItems rest).within (Nat.le_of_lt hLt)
            (.item value.1.1)
      else .last (.item value.1.1 (.ended .noComma))
termination_by 3 * text.length + 1

/- The members behind an opening brace. -/
def readObject (text : List Char) : Read DraftMembers text :=
  match h : trim text with
  | [] => .last (.ended .textEnd)
  | c :: rest =>
      have hLt := length_lt_of_trim h
      if c = '\x7d' then
        ⟨(.ended .closed, rest), Nat.le_of_lt hLt⟩
      else if c = '"' then
        (readMembers rest).within (Nat.le_of_lt hLt) id
      else .last (.badKey (readValue text).1.1)
termination_by 3 * text.length + 2

/- At least one member, whose opening quote is read, and
   the end of the object. -/
def readMembers (text : List Char) : Read DraftMembers text :=
  let key := StringLiteral.scan text
  have hKey := StringLiteral.length_scan_le text
  match h : trim key.2 with
  | [] => .last (.keyOnly key.1 true)
  | c :: rest =>
      have hLt : rest.length < text.length :=
        Nat.lt_of_lt_of_le (length_lt_of_trim h) hKey
      if c = ':' then
        let value := readValue rest
        match hNext : trim value.1.2 with
        | [] => .last (.member key.1 value.1.1 (.ended .textEnd))
        | next :: behind =>
            have hBehind : behind.length < text.length :=
              Nat.lt_trans
                (Nat.lt_of_lt_of_le
                  (length_lt_of_trim hNext) value.2) hLt
            if next = '\x7d' then
              ⟨(.member key.1 value.1.1 (.ended .closed),
                behind), Nat.le_of_lt hBehind⟩
            else if next = ',' then
              (readNextMember behind).within
                (Nat.le_of_lt hBehind)
                (.member key.1 value.1.1)
            else
              .last
                (.member key.1 value.1.1 (.ended .noComma))
      else .last (.keyOnly key.1 false)
termination_by 3 * text.length

/- The members behind a comma. -/
def readNextMember
    (text : List Char) : Read DraftMembers text :=
  match h : trim text with
  | [] => .last (.ended .commaAtEnd)
  | c :: rest =>
      have hLt := length_lt_of_trim h
      if c = '\x7d' then .last (.ended .trailingComma)
      else if c = '"' then
        (readMembers rest).within (Nat.le_of_lt hLt) id
      else .last (.badKey (readValue text).1.1)
termination_by 3 * text.length + 1

end

end Draft

------------------------------------------------------------
-- Documents
------------------------------------------------------------

/- A text as one value, and whether more text follows. -/
structure JsonDocument where
  root : Draft
  hasMore : Bool

/- The document that a text holds. -/
def JsonDocument.ofText (text : String) : JsonDocument :=
  let (root, rest) := (Draft.readValue text.toList).1
  { root, hasMore := !(Draft.trim rest).isEmpty }

example :
    (JsonDocument.ofText
      "[1, \x7b\"a\": null\x7d] ").root.readFault? 2 =
      none := by
  decide +kernel
example :
    (JsonDocument.ofText "[[1,]]").root.readFault? 2 =
      some .trailingComma := by
  decide +kernel
example :
    (JsonDocument.ofText "[[1,]]").root.readFault? 1 =
      some .tooDeep := by
  decide +kernel
example :
    (JsonDocument.ofText "[[1,]]").root.skipFault? =
      some .expectedValue := by
  decide +kernel

end LatencySweep
