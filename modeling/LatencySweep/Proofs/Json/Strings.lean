import LatencySweep.Json.Printer
import LatencySweep.Json.StringLiteral

/-
  Strings are read as they were written.

  A literal is spelled unit by unit, and a scan takes in one
  unit after the other up to the closing quote. Each written
  character spells one unit: itself, an escape by a letter,
  or an escape by code. Only control characters have no
  other form than a code, so there are no halves of
  characters among the units.

  Main declarations:
    * `StringLiteral.ofText`
    * `StringLiteral.Spells`
    * `StringLiteral.spells_ofText`
    * `StringLiteral.scan_append`
    * `StringLiteral.exists_of_scan`
    * `StringLiteral.text_ofText`
-/

namespace LatencySweep

namespace StringLiteral

------------------------------------------------------------
-- Units
------------------------------------------------------------

/- The control characters that are escaped by a letter. -/
def lettered : List Char :=
  ['\x08', '\x0c', '\n', '\r', '\t']

/- The unit that is written for a character. -/
def unitOf (c : Char) : StringUnit :=
  if c.toNat < 0x20 ∧ c ∉ lettered then .code c.toNat
  else .char c

/- The literal that is written for a text. -/
def ofText (s : String) : StringLiteral :=
  { units := s.toList.map unitOf, fault? := none }

------------------------------------------------------------
-- Spelling
------------------------------------------------------------

/- How the inside of a literal is spelled: characters as
   they are, escapes by letter and escapes by code. -/
inductive Spells : List Char → StringLiteral → Prop where
  | nil : Spells [] { units := [], fault? := none }
  | char
      {c : Char}
      {text : List Char}
      {literal : StringLiteral}
      (hQuote : c ≠ '"')
      (hSlash : c ≠ '\\')
      (hControl : ¬ c.toNat < 0x20)
      (hRest : Spells text literal) :
      Spells (c :: text) (cons (.char c) literal)
  | letter
      {letter c : Char}
      {text : List Char}
      {literal : StringLiteral}
      (hEscaped : escaped? letter = some c)
      (hRest : Spells text literal) :
      Spells ('\\' :: letter :: text) (cons (.char c) literal)
  | code
      {a b c d : Char}
      {n : Nat}
      {text : List Char}
      {literal : StringLiteral}
      (hCode : hexCode? a b c d = some n)
      (hRest : Spells text literal) :
      Spells ('\\' :: 'u' :: a :: b :: c :: d :: text)
        (cons (.code n) literal)

/- A spelled literal is not broken off. -/
theorem Spells.skipFault?_eq_none
    {text : List Char}
    {literal : StringLiteral}
    (hText : Spells text literal) :
    literal.skipFault? = none := by
  induction hText with
  | nil => rfl
  | char _ _ _ _ ih => exact ih
  | letter _ _ ih => exact ih
  | code _ _ ih => exact ih

/- The digits of the code of a control character. -/
theorem hexCode?_fourHexDigits :
    ∀ n < 0x20,
      Json.fourHexDigits n =
          ['0', '0', Nat.digitChar (n / 16),
            Nat.digitChar (n % 16)] ∧
        hexCode? '0' '0' (Nat.digitChar (n / 16))
            (Nat.digitChar (n % 16)) =
          some n := by
  decide

/- What is written for a character spells its unit. -/
theorem Spells.stringChar
    (c : Char)
    {text : List Char}
    {literal : StringLiteral}
    (hRest : Spells text literal) :
    Spells (Json.stringChar c ++ text)
      (cons (unitOf c) literal) := by
  unfold Json.stringChar
  split
  next => exact .letter rfl hRest
  next => exact .letter rfl hRest
  next => exact .letter rfl hRest
  next => exact .letter rfl hRest
  next => exact .letter rfl hRest
  next => exact .letter rfl hRest
  next => exact .letter rfl hRest
  next hQuote hSlash hBack hForm hNew hReturn hTab =>
    have hLettered : c ∉ lettered := by
      simp only [lettered, List.mem_cons, List.not_mem_nil,
        or_false, not_or]
      exact ⟨hBack, hForm, hNew, hReturn, hTab⟩
    by_cases hControl : c.toNat < 0x20
    · rcases hexCode?_fourHexDigits c.toNat hControl with
        ⟨hDigits, hCode⟩
      rw [if_pos hControl, unitOf,
        if_pos ⟨hControl, hLettered⟩, hDigits]
      exact .code hCode hRest
    · rw [if_neg hControl, unitOf,
        if_neg fun h => hControl h.1]
      exact .char hQuote hSlash hControl hRest

/- What is written for a text spells its literal. -/
theorem spells_ofText (s : String) :
    Spells (s.toList.flatMap Json.stringChar)
      (ofText s) := by
  unfold ofText
  induction s.toList with
  | nil => exact .nil
  | cons c text ih =>
      rw [List.flatMap_cons]
      exact ih.stringChar c

------------------------------------------------------------
-- Scanning
------------------------------------------------------------

/- A unit in front of a literal. -/
theorem scan_cons
    {c : Char}
    {text rest : List Char}
    {unit : StringUnit}
    (hQuote : c ≠ '"')
    (hStep : unitStep c text = .ok (unit, rest)) :
    scan (c :: text) =
      (cons unit (scan rest).1, (scan rest).2) := by
  rw [scan, if_neg hQuote]
  split
  next hError =>
    rw [hStep] at hError
    cases hError
  next hOk =>
    rw [hStep] at hOk
    cases hOk
    rfl

/- A literal is scanned up to its closing quote. -/
theorem scan_append
    {text : List Char}
    {literal : StringLiteral}
    (hText : Spells text literal)
    (rest : List Char) :
    scan (text ++ '"' :: rest) = (literal, rest) := by
  induction hText with
  | nil => rw [List.nil_append, scan, if_pos rfl]
  | char hQuote hSlash hControl _ ih =>
      rw [List.cons_append, scan_cons hQuote, ih]
      rw [unitStep, if_neg hSlash, if_neg hControl]
  | @letter letter c text literal hEscaped _ ih =>
      have hLetter : letter ≠ 'u' := by
        rintro rfl
        cases hEscaped
      rw [List.cons_append, scan_cons (by decide), ih]
      rw [unitStep, if_pos rfl, List.cons_append, escapeStep,
        if_neg hLetter, hEscaped]
  | code hCode _ ih =>
      rw [List.cons_append, scan_cons (by decide), ih]
      rw [unitStep, if_pos rfl]
      change codeStep (_ :: _ :: _ :: _ :: _) = _
      rw [codeStep, hCode]
      rfl

/- A step into a literal takes in what spells its unit. -/
theorem Spells.of_unitStep
    {c : Char}
    {text rest body : List Char}
    {unit : StringUnit}
    {literal : StringLiteral}
    (hQuote : c ≠ '"')
    (hStep : unitStep c text = .ok (unit, rest))
    (hRest : Spells body literal) :
    ∃ front,
      Spells (c :: (front ++ body)) (cons unit literal) ∧
        text = front ++ rest := by
  unfold unitStep at hStep
  split at hStep
  next hSlash =>
    rw [hSlash]
    unfold escapeStep at hStep
    split at hStep
    next => cases hStep
    next letter behind =>
      split at hStep
      next hCode =>
        rw [hCode]
        unfold codeStep at hStep
        split at hStep
        next a b c d behind =>
          split at hStep
          next n hHex =>
            cases hStep
            exact
              ⟨['u', a, b, c, d], .code hHex hRest, rfl⟩
          next => cases hStep
        next =>
          split at hStep
          · cases hStep
          · cases hStep
      next =>
        split at hStep
        next found hEscaped =>
          cases hStep
          exact ⟨[letter], .letter hEscaped hRest, rfl⟩
        next => cases hStep
  next hSlash =>
    split at hStep
    next => cases hStep
    next hControl =>
      cases hStep
      exact
        ⟨[], .char hQuote hSlash hControl hRest, rfl⟩

/- What is scanned without a fault spells the literal up to
   its closing quote. -/
theorem exists_of_scan
    {text : List Char}
    (hFault : (scan text).1.skipFault? = none) :
    ∃ body,
      Spells body (scan text).1 ∧
        text = body ++ '"' :: (scan text).2 := by
  fun_induction scan text with
  | case1 => cases hFault
  | case2 text => exact ⟨[], .nil, rfl⟩
  | case3 => cases hFault
  | case4 c text hQuote unit rest hStep literal behind hScan
      ih =>
      rw [hScan] at ih
      rcases ih hFault with ⟨body, hBody, rfl⟩
      rcases hBody.of_unitStep hQuote hStep with
        ⟨front, hFront, rfl⟩
      exact
        ⟨c :: (front ++ body), hFront, by
          simp only [List.cons_append, List.append_assoc]⟩

------------------------------------------------------------
-- Texts
------------------------------------------------------------

/- The units of a text are read as its characters. -/
theorem readUnits_map (text : List Char) :
    readUnits none (text.map unitOf) = .ok text := by
  induction text with
  | nil => rfl
  | cons c text ih =>
      rw [List.map_cons, unitOf]
      split
      next hCode =>
        have hLow : isLowHalf c.toNat = false := by
          simp only [isLowHalf, Bool.and_eq_false_iff,
            decide_eq_false_iff_not]
          omega
        have hHigh : isHighHalf c.toNat = false := by
          simp only [isHighHalf, Bool.and_eq_false_iff,
            decide_eq_false_iff_not]
          omega
        rw [readUnits.eq_def]
        simp only [hLow, hHigh, ih, Char.ofNat_toNat]
        rfl
      next => rw [readUnits, ih]

/- A string has the text that it was written for. -/
@[simp] theorem text_ofText (s : String) :
    (ofText s).text = .ok s := by
  rw [text, ofText, readUnits_map]
  exact congrArg Except.ok String.ofList_toList

end StringLiteral

end LatencySweep
