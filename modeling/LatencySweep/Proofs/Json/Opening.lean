import LatencySweep.Proofs.Json.Numerals

/-
  The reader of JSON texts, opened part by part.

  What a part of the reader makes of a text is told by the
  first character that is no blank. Each equation here
  takes one such character and one way to go on.

  Main declarations:
    * `AreGaps`
    * `Draft.readValue_eq`
    * `Draft.readList_eq`
    * `Draft.readItems_eq`
    * `Draft.readObject_eq`
    * `Draft.readNextMember_eq`
    * `Draft.readMembers_eq`
    * `Draft.readScalar_number`
-/

namespace LatencySweep

------------------------------------------------------------
-- Blanks
------------------------------------------------------------

/- The characters are blanks between parts of a text. -/
def AreGaps (text : List Char) : Prop :=
  ∀ c ∈ text, Draft.isGap c = true

theorem areGaps_nil : AreGaps [] :=
  nofun

theorem areGaps_singleton
    {c : Char}
    (hGap : Draft.isGap c = true) :
    AreGaps [c] :=
  List.forall_mem_singleton.mpr hGap

/- A number does not go on into blanks. -/
theorem EndsNumeral.append
    {blanks text : List Char}
    (hBlanks : AreGaps blanks)
    (hText : EndsNumeral text) :
    EndsNumeral (blanks ++ text) := by
  cases blanks with
  | nil => exact hText
  | cons first blanks =>
      intro c hFirst
      cases hFirst
      have hGap := hBlanks first List.mem_cons_self
      simp only [Draft.isGap, Bool.or_eq_true,
        decide_eq_true_eq] at hGap
      rcases hGap with ((rfl | rfl) | rfl) | rfl <;> decide

theorem EndsNumeral.of_cons
    {c : Char}
    (text : List Char)
    (hChar :
      isDigit c = false ∧ c ≠ '.' ∧ c ≠ 'e' ∧ c ≠ 'E') :
    EndsNumeral (c :: text) := by
  intro other hOther
  cases hOther
  exact hChar

namespace Draft

theorem trim_append
    {blanks : List Char}
    (hBlanks : AreGaps blanks)
    (text : List Char) :
    trim (blanks ++ text) = trim text :=
  List.dropWhile_append_of_pos hBlanks

theorem trim_cons
    {c : Char}
    (hChar : isGap c = false)
    (text : List Char) :
    trim (c :: text) = c :: text :=
  List.dropWhile_cons_of_neg (by simp [hChar])

------------------------------------------------------------
-- Values
------------------------------------------------------------

theorem readValue_eq
    {text rest : List Char}
    {c : Char}
    (hTrim : trim text = c :: rest) :
    (readValue text).1 =
      if c = '[' then
        (.list (readList rest).1.1, (readList rest).1.2)
      else if c = '\x7b' then
        (.object (readObject rest).1.1, (readObject rest).1.2)
      else readScalar c rest := by
  unfold readValue
  split
  next hNone =>
    rw [hTrim] at hNone
    cases hNone
  next c' rest' hSome =>
    rw [hTrim] at hSome
    cases hSome
    split
    · rfl
    · split <;> rfl

theorem readValue_of_nil
    {text : List Char}
    (hTrim : trim text = []) :
    (readValue text).1 = (.missing, []) := by
  unfold readValue
  split
  next => rfl
  next hSome =>
    rw [hTrim] at hSome
    cases hSome

/- Blanks in front of a value do not matter. -/
theorem readValue_append
    {blanks text rest : List Char}
    {c : Char}
    (hBlanks : AreGaps blanks)
    (hTrim : trim text = c :: rest) :
    (readValue (blanks ++ text)).1 = (readValue text).1 := by
  have hAll : trim (blanks ++ text) = c :: rest := by
    rw [trim_append hBlanks, hTrim]
  rw [readValue_eq hAll, readValue_eq hTrim]

------------------------------------------------------------
-- Lists
------------------------------------------------------------

theorem readList_eq
    {text rest : List Char}
    {c : Char}
    (hTrim : trim text = c :: rest) :
    (readList text).1 =
      if c = ']' then (.ended .closed, rest)
      else (readItems text).1 := by
  unfold readList
  split
  next hNone =>
    rw [hTrim] at hNone
    cases hNone
  next c' rest' hSome =>
    rw [hTrim] at hSome
    cases hSome
    split <;> rfl

theorem readList_of_nil
    {text : List Char}
    (hTrim : trim text = []) :
    (readList text).1 = (.ended .textEnd, []) := by
  unfold readList
  split
  next => rfl
  next hSome =>
    rw [hTrim] at hSome
    cases hSome

/- Behind an item stands the end of the list or a comma,
   and no end may stand behind a comma. -/
theorem readItems_eq
    {text rest : List Char}
    {c : Char}
    (hTrim : trim (readValue text).1.2 = c :: rest) :
    (readItems text).1 =
      if c = ']' then
        (.item (readValue text).1.1 (.ended .closed), rest)
      else if c = ',' then
        if (trim rest).head? = some ']' then
          (.item (readValue text).1.1
            (.ended .trailingComma), [])
        else
          (.item (readValue text).1.1 (readItems rest).1.1,
            (readItems rest).1.2)
      else
        (.item (readValue text).1.1 (.ended .noComma),
          []) := by
  conv => lhs; unfold readItems
  dsimp only
  split
  next hNone =>
    rw [hTrim] at hNone
    cases hNone
  next c' rest' hSome =>
    rw [hTrim] at hSome
    cases hSome
    split
    · rfl
    · split
      · split <;> rfl
      · rfl

theorem readItems_of_nil
    {text : List Char}
    (hTrim : trim (readValue text).1.2 = []) :
    (readItems text).1 =
      (.item (readValue text).1.1 (.ended .textEnd), []) := by
  conv => lhs; unfold readItems
  dsimp only
  split
  next => rfl
  next hSome =>
    rw [hTrim] at hSome
    cases hSome

------------------------------------------------------------
-- Objects
------------------------------------------------------------

theorem readObject_eq
    {text rest : List Char}
    {c : Char}
    (hTrim : trim text = c :: rest) :
    (readObject text).1 =
      if c = '\x7d' then (.ended .closed, rest)
      else if c = '"' then (readMembers rest).1
      else (.badKey (readValue text).1.1, []) := by
  unfold readObject
  split
  next hNone =>
    rw [hTrim] at hNone
    cases hNone
  next c' rest' hSome =>
    rw [hTrim] at hSome
    cases hSome
    split
    · rfl
    · split <;> rfl

theorem readObject_of_nil
    {text : List Char}
    (hTrim : trim text = []) :
    (readObject text).1 = (.ended .textEnd, []) := by
  unfold readObject
  split
  next => rfl
  next hSome =>
    rw [hTrim] at hSome
    cases hSome

theorem readNextMember_eq
    {text rest : List Char}
    {c : Char}
    (hTrim : trim text = c :: rest) :
    (readNextMember text).1 =
      if c = '\x7d' then (.ended .trailingComma, [])
      else if c = '"' then (readMembers rest).1
      else (.badKey (readValue text).1.1, []) := by
  unfold readNextMember
  split
  next hNone =>
    rw [hTrim] at hNone
    cases hNone
  next c' rest' hSome =>
    rw [hTrim] at hSome
    cases hSome
    split
    · rfl
    · split <;> rfl

theorem readNextMember_of_nil
    {text : List Char}
    (hTrim : trim text = []) :
    (readNextMember text).1 = (.ended .commaAtEnd, []) := by
  unfold readNextMember
  split
  next => rfl
  next hSome =>
    rw [hTrim] at hSome
    cases hSome

/- A key without its colon is the last thing read. -/
theorem readMembers_of_no_colon
    {text : List Char}
    (hColon :
      (trim (StringLiteral.scan text).2).head? ≠ some ':') :
    ∃ textEnds,
      (readMembers text).1 =
        (.keyOnly (StringLiteral.scan text).1 textEnds,
          []) := by
  unfold readMembers
  dsimp only
  split
  next => exact ⟨true, rfl⟩
  next c rest hSome =>
    rw [hSome] at hColon
    rw [if_neg fun hSame => hColon (congrArg some hSame)]
    exact ⟨false, rfl⟩

theorem readMembers_of_nil
    {text behind : List Char}
    (hKey :
      trim (StringLiteral.scan text).2 = ':' :: behind)
    (hTrim : trim (readValue behind).1.2 = []) :
    (readMembers text).1 =
      (.member (StringLiteral.scan text).1
        (readValue behind).1.1 (.ended .textEnd), []) := by
  unfold readMembers
  dsimp only
  split
  next hNone =>
    rw [hKey] at hNone
    cases hNone
  next hSome =>
    rw [hKey] at hSome
    cases hSome
    rw [if_pos rfl]
    split
    next => rfl
    next hNext =>
      rw [hTrim] at hNext
      cases hNext

/- Behind a key and its colon stands a value, and behind
   that the end of the object or a comma. -/
theorem readMembers_eq
    {text behind rest : List Char}
    {c : Char}
    (hKey :
      trim (StringLiteral.scan text).2 = ':' :: behind)
    (hTrim : trim (readValue behind).1.2 = c :: rest) :
    (readMembers text).1 =
      if c = '\x7d' then
        (.member (StringLiteral.scan text).1
          (readValue behind).1.1 (.ended .closed), rest)
      else if c = ',' then
        (.member (StringLiteral.scan text).1
          (readValue behind).1.1 (readNextMember rest).1.1,
          (readNextMember rest).1.2)
      else
        (.member (StringLiteral.scan text).1
          (readValue behind).1.1 (.ended .noComma), []) := by
  unfold readMembers
  dsimp only
  split
  next hNone =>
    rw [hKey] at hNone
    cases hNone
  next c' rest' hSome =>
    rw [hKey] at hSome
    cases hSome
    rw [if_pos rfl]
    split
    next hNone =>
      rw [hTrim] at hNone
      cases hNone
    next c' rest' hNext =>
      rw [hTrim] at hNext
      cases hNext
      split
      · rfl
      · split <;> rfl

------------------------------------------------------------
-- Scalars
------------------------------------------------------------

/- Other characters than a minus and digits start no
   number. -/
theorem ne_of_numeral
    {c other : Char}
    (hFirst : c = '-' ∨ isDigit c = true)
    (hMinus : other ≠ '-')
    (hDigit : isDigit other = false) :
    c ≠ other := by
  rintro rfl
  rcases hFirst with rfl | hFirst
  · exact hMinus rfl
  · rw [hDigit] at hFirst
    cases hFirst

/- What starts with a minus or a digit is a number. -/
theorem readScalar_number
    {c : Char}
    (hFirst : c = '-' ∨ isDigit c = true)
    (text : List Char) :
    readScalar c text = readNumber (c :: text) := by
  have hNull : c ≠ 'n' :=
    ne_of_numeral hFirst (by decide) (by decide)
  have hTrue : c ≠ 't' :=
    ne_of_numeral hFirst (by decide) (by decide)
  have hFalse : c ≠ 'f' :=
    ne_of_numeral hFirst (by decide) (by decide)
  have hQuote : c ≠ '"' :=
    ne_of_numeral hFirst (by decide) (by decide)
  rw [readScalar, if_neg hNull, if_neg hTrue,
    if_neg hFalse, if_neg hQuote, if_pos hFirst]

theorem isGap_of_numeral
    {c : Char}
    (hFirst : c = '-' ∨ isDigit c = true) :
    isGap c = false := by
  rcases hFirst with rfl | hDigit
  · decide
  · rw [← Bool.not_eq_true]
    intro hGap
    simp only [isGap, Bool.or_eq_true, decide_eq_true_eq]
      at hGap
    rcases hGap with ((rfl | rfl) | rfl) | rfl <;>
      exact absurd hDigit (by decide)

end Draft

end LatencySweep
