import LatencySweep.Proofs.Json.Opening
import LatencySweep.Proofs.Json.Strings
import Mathlib.Data.List.Defs

/-
  Values are read as they are spelled.

  A value is spelled by words, numerals, literals, and the
  spellings of its parts with commas between them, with any
  blanks around each part. A reader of such a text comes to
  the value, whatever stands behind it, provided that no
  number goes on there. Nothing in a spelled value is a
  fault to a reader that skips it.

  Main declarations:
    * `Draft.Spells`
    * `Draft.Spells.readsAs`
    * `Draft.Spells.skipFault?_eq_none`
    * `JsonDocument.ofText_of_spells`
-/

namespace LatencySweep

------------------------------------------------------------
-- Lists of Parts
------------------------------------------------------------

/- The items of a list that is closed. -/
def DraftItems.ofList : List Draft → DraftItems
  | [] => .ended .closed
  | value :: rest => .item value (ofList rest)

/- The members of an object that is closed. -/
def DraftMembers.ofList :
    List (StringLiteral × Draft) → DraftMembers
  | [] => .ended .closed
  | (key, value) :: rest => .member key value (ofList rest)

/- Texts with commas between them. -/
def withCommas (texts : List (List Char)) : List Char :=
  [','].intercalate texts

theorem withCommas_singleton (text : List Char) :
    withCommas [text] = text :=
  List.intercalate_singleton

theorem withCommas_cons
    {texts : List (List Char)}
    (hSome : texts ≠ [])
    (text : List Char) :
    withCommas (text :: texts) =
      text ++ ',' :: withCommas texts := by
  rw [withCommas, List.intercalate_cons_of_ne_nil hSome,
    List.append_assoc]
  rfl

theorem exists_withCommas_cons
    (text : List Char)
    (texts : List (List Char)) :
    ∃ behind, withCommas (text :: texts) = text ++ behind := by
  cases texts with
  | nil =>
      refine ⟨[], ?_⟩
      rw [withCommas_singleton, List.append_nil]
  | cons next texts =>
      exact ⟨_, withCommas_cons (List.cons_ne_nil _ _) text⟩

/- Nothing stops a reader that skips items one by one. -/
theorem DraftItems.skipFault?_ofList
    {items : List Draft}
    (hItems : ∀ item ∈ items, item.skipFault? = none) :
    (ofList items).skipFault? = none := by
  induction items with
  | nil => rfl
  | cons item items ih =>
      rcases List.forall_mem_cons.mp hItems with
        ⟨hItem, hRest⟩
      rw [ofList, skipFault?, hItem, ih hRest]
      rfl

/- The same of members, whose keys are skipped, too. -/
theorem DraftMembers.skipFault?_ofList
    {members : List (StringLiteral × Draft)}
    (hMembers :
      ∀ member ∈ members,
        member.1.skipFault? = none ∧
          member.2.skipFault? = none) :
    (ofList members).skipFault? = none := by
  induction members with
  | nil => rfl
  | cons member members ih =>
      rcases List.forall_mem_cons.mp hMembers with
        ⟨⟨hKey, hValue⟩, hRest⟩
      rw [ofList, skipFault?, hKey, hValue, ih hRest]
      rfl

namespace Draft

------------------------------------------------------------
-- Spelling
------------------------------------------------------------

/- A key is spelled between quotes, with blanks around. -/
inductive SpellsKey : List Char → StringLiteral → Prop where
  | quoted
      {before body behind : List Char}
      {key : StringLiteral}
      (hBefore : AreGaps before)
      (hBody : StringLiteral.Spells body key)
      (hBehind : AreGaps behind) :
      SpellsKey (before ++ '"' :: (body ++ '"' :: behind)) key

/- A member with the texts of its parts. -/
structure SpelledMember where
  keyText : List Char
  key : StringLiteral
  valueText : List Char
  value : Draft

namespace SpelledMember

/- The text of a member. -/
def text (member : SpelledMember) : List Char :=
  member.keyText ++ ':' :: member.valueText

/- What a member adds to an object. -/
def entry (member : SpelledMember) : StringLiteral × Draft :=
  (member.key, member.value)

end SpelledMember

/- How values are spelled. -/
inductive Spells : List Char → Draft → Prop where
  | before
      {c : Char}
      {text : List Char}
      {value : Draft}
      (hGap : isGap c = true)
      (hText : Spells text value) :
      Spells (c :: text) value
  | behind
      {c : Char}
      {text : List Char}
      {value : Draft}
      (hGap : isGap c = true)
      (hText : Spells text value) :
      Spells (text ++ [c]) value
  | null : Spells ['n', 'u', 'l', 'l'] null
  | true : Spells ['t', 'r', 'u', 'e'] (bool true)
  | false : Spells ['f', 'a', 'l', 's', 'e'] (bool false)
  | number
      {text : List Char}
      {numeral : Numeral}
      (hText : Numeral.Spells text numeral) :
      Spells text (number (.ok numeral.value))
  | string
      {body : List Char}
      {literal : StringLiteral}
      (hBody : StringLiteral.Spells body literal) :
      Spells ('"' :: (body ++ ['"'])) (string literal)
  | emptyList
      {gaps : List Char}
      (hGaps : AreGaps gaps) :
      Spells ('[' :: (gaps ++ [']'])) (list (.ofList []))
  | list
      {items : List (List Char × Draft)}
      (hSome : items ≠ [])
      (hItems : ∀ item ∈ items, Spells item.1 item.2) :
      Spells
        ('[' :: (withCommas (items.map Prod.fst) ++ [']']))
        (list (.ofList (items.map Prod.snd)))
  | emptyObject
      {gaps : List Char}
      (hGaps : AreGaps gaps) :
      Spells ('\x7b' :: (gaps ++ ['\x7d']))
        (object (.ofList []))
  | object
      {members : List SpelledMember}
      (hSome : members ≠ [])
      (hKeys :
        ∀ member ∈ members,
          SpellsKey member.keyText member.key)
      (hValues :
        ∀ member ∈ members,
          Spells member.valueText member.value) :
      Spells
        ('\x7b' ::
          (withCommas (members.map SpelledMember.text) ++
            ['\x7d']))
        (object (.ofList (members.map SpelledMember.entry)))

variable {text rest : List Char} {value : Draft}

/- Any blanks may stand in front and behind. -/
theorem Spells.gaps_append
    {gaps : List Char}
    (hText : Spells text value)
    (hGaps : AreGaps gaps) :
    Spells (gaps ++ text) value := by
  induction gaps with
  | nil => exact hText
  | cons gap gaps ih =>
      rcases List.forall_mem_cons.mp hGaps with
        ⟨hGap, hRest⟩
      exact .before hGap (ih hRest)

theorem Spells.append_gaps
    {gaps : List Char}
    (hText : Spells text value)
    (hGaps : AreGaps gaps) :
    Spells (text ++ gaps) value := by
  induction gaps generalizing text with
  | nil => rwa [List.append_nil]
  | cons gap gaps ih =>
      rcases List.forall_mem_cons.mp hGaps with
        ⟨hGap, hRest⟩
      rw [List.append_cons]
      exact ih (.behind hGap hText) hRest

------------------------------------------------------------
-- First Characters
------------------------------------------------------------

theorem trim_append_of_cons
    {c : Char}
    {more : List Char}
    (hTrim : trim text = c :: more)
    (rest : List Char) :
    trim (text ++ rest) = c :: (more ++ rest) := by
  unfold trim at hTrim ⊢
  rw [List.dropWhile_append, hTrim]
  rfl

/- A spelled value starts, behind blanks, with a character
   that closes no list. -/
theorem Spells.exists_trim_eq
    (hText : Spells text value) :
    ∃ c more, trim text = c :: more ∧ c ≠ ']' := by
  induction hText with
  | @before c text value hGap _ ih =>
      rcases ih with ⟨first, more, hTrim, hClose⟩
      refine ⟨first, more, ?_, hClose⟩
      rw [← hTrim]
      exact List.dropWhile_cons_of_pos hGap
  | behind _ _ ih =>
      rcases ih with ⟨first, more, hTrim, hClose⟩
      exact
        ⟨first, _, trim_append_of_cons hTrim _, hClose⟩
  | null => exact ⟨_, _, trim_cons rfl _, by decide⟩
  | true => exact ⟨_, _, trim_cons rfl _, by decide⟩
  | false => exact ⟨_, _, trim_cons rfl _, by decide⟩
  | number hNumeral =>
      rcases hNumeral.exists_eq_cons with
        ⟨c, more, rfl, hFirst⟩
      exact
        ⟨c, more, trim_cons (isGap_of_numeral hFirst) _,
          ne_of_numeral hFirst (by decide) (by decide)⟩
  | string => exact ⟨_, _, trim_cons rfl _, by decide⟩
  | emptyList => exact ⟨_, _, trim_cons rfl _, by decide⟩
  | list => exact ⟨_, _, trim_cons rfl _, by decide⟩
  | emptyObject => exact ⟨_, _, trim_cons rfl _, by decide⟩
  | object => exact ⟨_, _, trim_cons rfl _, by decide⟩

/- So does the first of values with commas. -/
theorem exists_trim_withCommas
    {items : List (List Char × Draft)}
    (hSome : items ≠ [])
    (hItems : ∀ item ∈ items, Spells item.1 item.2)
    (rest : List Char) :
    ∃ c more,
      trim (withCommas (items.map Prod.fst) ++ rest) =
          c :: more ∧
        c ≠ ']' := by
  cases items with
  | nil => exact absurd rfl hSome
  | cons item items =>
      rcases (hItems item List.mem_cons_self).exists_trim_eq
        with ⟨c, more, hTrim, hClose⟩
      rcases exists_withCommas_cons item.1
          (items.map Prod.fst) with
        ⟨behind, hText⟩
      refine ⟨c, more ++ (behind ++ rest), ?_, hClose⟩
      rw [List.map_cons, hText, List.append_assoc]
      exact trim_append_of_cons hTrim _

------------------------------------------------------------
-- Reading Parts
------------------------------------------------------------

/- What is read from the text is the value, and nothing but
   blanks behind the text is taken in. -/
def ReadsAs (text : List Char) (value : Draft) : Prop :=
  ∀ rest, EndsNumeral rest →
    (readValue (text ++ rest)).1.1 = value ∧
      trim (readValue (text ++ rest)).1.2 = trim rest

/- A scalar is read from its first character on. -/
theorem readsAs_of_scalar
    {c : Char}
    (hFirst : isGap c = false ∧ c ≠ '[' ∧ c ≠ '\x7b')
    (hScalar :
      ∀ rest, EndsNumeral rest →
        readScalar c (text ++ rest) = (value, rest)) :
    ReadsAs (c :: text) value := by
  rcases hFirst with ⟨hGap, hList, hObject⟩
  intro rest hRest
  have hTrim :
      trim (c :: text ++ rest) = c :: (text ++ rest) :=
    trim_cons hGap _
  rw [readValue_eq hTrim, if_neg hList, if_neg hObject,
    hScalar rest hRest]
  exact ⟨rfl, rfl⟩

/- A blank in front is skipped. -/
theorem ReadsAs.before
    {c : Char}
    (hGap : isGap c = true)
    (hText : Spells text value)
    (hReads : ReadsAs text value) :
    ReadsAs (c :: text) value := by
  intro rest hRest
  rcases hText.exists_trim_eq with ⟨first, more, hTrim, _⟩
  have hBlank := areGaps_singleton hGap
  have hSame :
      (readValue ([c] ++ (text ++ rest))).1 =
        (readValue (text ++ rest)).1 :=
    readValue_append hBlank (trim_append_of_cons hTrim rest)
  rw [List.cons_append, ← List.singleton_append, hSame]
  exact hReads rest hRest

/- A blank behind is left over. -/
theorem ReadsAs.behind
    {c : Char}
    (hGap : isGap c = true)
    (hReads : ReadsAs text value) :
    ReadsAs (text ++ [c]) value := by
  intro rest hRest
  have hBlank := areGaps_singleton hGap
  rcases hReads ([c] ++ rest) (.append hBlank hRest) with
    ⟨hValue, hBehind⟩
  rw [List.append_assoc]
  exact ⟨hValue, hBehind.trans (trim_append hBlank rest)⟩

/- In front of a mark it is read up to the mark. -/
theorem ReadsAs.upTo
    (hReads : ReadsAs text value)
    (mark : Char)
    (hGap : isGap mark = false)
    (hEnds :
      isDigit mark = false ∧
        mark ≠ '.' ∧ mark ≠ 'e' ∧ mark ≠ 'E')
    (rest : List Char) :
    (readValue (text ++ mark :: rest)).1.1 = value ∧
      trim (readValue (text ++ mark :: rest)).1.2 =
        mark :: rest := by
  rcases hReads (mark :: rest) (.of_cons rest hEnds) with
    ⟨hValue, hBehind⟩
  exact ⟨hValue, hBehind.trans (trim_cons hGap rest)⟩

theorem readsAs_number
    {numeral : Numeral}
    (hText : Numeral.Spells text numeral) :
    ReadsAs text (number (.ok numeral.value)) := by
  rcases hText.exists_eq_cons with ⟨c, more, rfl, hFirst⟩
  apply readsAs_of_scalar
  · exact
      ⟨isGap_of_numeral hFirst,
        ne_of_numeral hFirst (by decide) (by decide),
        ne_of_numeral hFirst (by decide) (by decide)⟩
  · intro rest hRest
    rw [readScalar_number hFirst, ← List.cons_append,
      readNumber, Numeral.scan_append hText hRest]

theorem readsAs_string
    {body : List Char}
    {literal : StringLiteral}
    (hBody : StringLiteral.Spells body literal) :
    ReadsAs ('"' :: (body ++ ['"'])) (string literal) := by
  apply readsAs_of_scalar (by decide)
  intro rest _
  change readString _ = _
  rw [readString, List.append_assoc, List.singleton_append,
    StringLiteral.scan_append hBody]

------------------------------------------------------------
-- Reading Lists
------------------------------------------------------------

/- Items are read up to the end of their list. -/
theorem readItems_withCommas
    {items : List (List Char × Draft)}
    (hSome : items ≠ [])
    (hItems : ∀ item ∈ items, Spells item.1 item.2)
    (hReads : ∀ item ∈ items, ReadsAs item.1 item.2)
    (rest : List Char) :
    (readItems
        (withCommas (items.map Prod.fst) ++
          ']' :: rest)).1 =
      (.ofList (items.map Prod.snd), rest) := by
  induction items with
  | nil => exact absurd rfl hSome
  | cons item items ih =>
      rcases List.forall_mem_cons.mp hItems with ⟨_, hLater⟩
      rcases List.forall_mem_cons.mp hReads with
        ⟨hFirst, hOthers⟩
      cases items with
      | nil =>
          rcases hFirst.upTo ']' rfl (by decide) rest with
            ⟨hValue, hBehind⟩
          rw [List.map_singleton, withCommas_singleton,
            readItems_eq hBehind, if_pos rfl, hValue]
          rfl
      | cons next items =>
          have hMore :=
            ih (List.cons_ne_nil _ _) hLater hOthers
          rcases exists_trim_withCommas
              (List.cons_ne_nil next items) hLater
              (']' :: rest) with
            ⟨c, more, hTrim, hClose⟩
          generalize hTail :
            withCommas ((next :: items).map Prod.fst) ++
              ']' :: rest = tail
            at hTrim hMore
          have hText :
              withCommas
                  ((item :: next :: items).map Prod.fst) ++
                    ']' :: rest =
                item.1 ++ ',' :: tail := by
            rw [← hTail, List.map_cons,
              withCommas_cons (by simp), List.append_assoc]
            rfl
          rcases hFirst.upTo ',' rfl (by decide) tail with
            ⟨hValue, hBehind⟩
          have hGoesOn : (trim tail).head? ≠ some ']' := by
            rw [hTrim]
            intro hSame
            exact hClose (Option.some.inj hSame)
          rw [hText, readItems_eq hBehind,
            if_neg (by decide), if_pos rfl, if_neg hGoesOn,
            hValue, hMore]
          rfl

theorem readsAs_emptyList
    {gaps : List Char}
    (hGaps : AreGaps gaps) :
    ReadsAs ('[' :: (gaps ++ [']'])) (list (.ofList [])) := by
  intro rest _
  have hOpen :
      trim ('[' :: (gaps ++ [']']) ++ rest) =
        '[' :: (gaps ++ [']'] ++ rest) :=
    trim_cons (by decide) _
  have hClose : trim (gaps ++ [']'] ++ rest) = ']' :: rest := by
    rw [List.append_assoc, trim_append hGaps]
    exact trim_cons (by decide) _
  rw [readValue_eq hOpen, if_pos rfl, readList_eq hClose,
    if_pos rfl]
  exact ⟨rfl, rfl⟩

theorem readsAs_list
    {items : List (List Char × Draft)}
    (hSome : items ≠ [])
    (hItems : ∀ item ∈ items, Spells item.1 item.2)
    (hReads : ∀ item ∈ items, ReadsAs item.1 item.2) :
    ReadsAs
      ('[' :: (withCommas (items.map Prod.fst) ++ [']']))
      (list (.ofList (items.map Prod.snd))) := by
  intro rest _
  have hText :
      '[' :: (withCommas (items.map Prod.fst) ++ [']']) ++
          rest =
        '[' ::
          (withCommas (items.map Prod.fst) ++
            ']' :: rest) := by
    rw [List.cons_append, List.append_assoc]
    rfl
  have hOpen :=
    trim_cons (c := '[') rfl
      (withCommas (items.map Prod.fst) ++ ']' :: rest)
  rcases exists_trim_withCommas hSome hItems (']' :: rest)
    with ⟨c, more, hTrim, hClose⟩
  rw [hText, readValue_eq hOpen, if_pos rfl,
    readList_eq hTrim, if_neg hClose,
    readItems_withCommas hSome hItems hReads]
  exact ⟨rfl, rfl⟩

------------------------------------------------------------
-- Reading Objects
------------------------------------------------------------

/- A key is read between its quotes, up to its colon. -/
theorem SpellsKey.exists_trim_eq
    {key : StringLiteral}
    (hText : SpellsKey text key)
    (rest : List Char) :
    ∃ body,
      trim (text ++ ':' :: rest) = '"' :: body ∧
        (StringLiteral.scan body).1 = key ∧
        trim (StringLiteral.scan body).2 = ':' :: rest := by
  cases hText with
  | @quoted before body behind key hBefore hBody hBehind =>
      refine
        ⟨body ++ '"' :: (behind ++ ':' :: rest), ?_, ?_⟩
      · rw [List.append_assoc, trim_append hBefore,
          List.cons_append, List.append_assoc]
        exact trim_cons (by decide) _
      · rw [StringLiteral.scan_append hBody,
          trim_append hBehind]
        exact ⟨rfl, trim_cons (by decide) _⟩

/- Members are read up to the end of their object. -/
theorem readMembers_withCommas
    {members : List SpelledMember}
    (hSome : members ≠ [])
    (hKeys :
      ∀ member ∈ members,
        SpellsKey member.keyText member.key)
    (hReads :
      ∀ member ∈ members,
        ReadsAs member.valueText member.value)
    (rest : List Char) :
    ∃ body,
      trim
          (withCommas (members.map SpelledMember.text) ++
            '\x7d' :: rest) =
        '"' :: body ∧
      (readMembers body).1 =
        (.ofList (members.map SpelledMember.entry), rest) := by
  induction members with
  | nil => exact absurd rfl hSome
  | cons member members ih =>
      rcases List.forall_mem_cons.mp hKeys with
        ⟨hKey, hLater⟩
      rcases List.forall_mem_cons.mp hReads with
        ⟨hFirst, hOthers⟩
      cases members with
      | nil =>
          rcases hFirst.upTo '\x7d' rfl (by decide) rest with
            ⟨hValue, hBehind⟩
          rcases hKey.exists_trim_eq
              (member.valueText ++ '\x7d' :: rest) with
            ⟨body, hTrim, hName, hColon⟩
          refine ⟨body, ?_, ?_⟩
          · rw [List.map_singleton, withCommas_singleton,
              SpelledMember.text, List.append_assoc]
            exact hTrim
          · rw [readMembers_eq hColon hBehind, if_pos rfl,
              hName, hValue]
            rfl
      | cons next members =>
          rcases
            ih (List.cons_ne_nil _ _) hLater hOthers
            with ⟨more, hMore, hRest⟩
          generalize hTail :
            withCommas
                ((next :: members).map SpelledMember.text) ++
              '\x7d' :: rest = tail
            at hMore
          rcases hFirst.upTo ',' rfl (by decide) tail with
            ⟨hValue, hBehind⟩
          rcases hKey.exists_trim_eq
              (member.valueText ++ ',' :: tail) with
            ⟨body, hTrim, hName, hColon⟩
          refine ⟨body, ?_, ?_⟩
          · rw [← hTrim, ← hTail, List.map_cons,
              withCommas_cons (by simp), SpelledMember.text]
            simp only [List.append_assoc, List.cons_append]
          · have hNext := readNextMember_eq hMore
            rw [if_neg (by decide), if_pos rfl, hRest] at hNext
            rw [readMembers_eq hColon hBehind,
              if_neg (by decide), if_pos rfl, hName, hValue,
              hNext]
            rfl

theorem readsAs_emptyObject
    {gaps : List Char}
    (hGaps : AreGaps gaps) :
    ReadsAs ('\x7b' :: (gaps ++ ['\x7d']))
      (object (.ofList [])) := by
  intro rest _
  have hOpen :
      trim ('\x7b' :: (gaps ++ ['\x7d']) ++ rest) =
        '\x7b' :: (gaps ++ ['\x7d'] ++ rest) :=
    trim_cons (by decide) _
  have hClose :
      trim (gaps ++ ['\x7d'] ++ rest) = '\x7d' :: rest := by
    rw [List.append_assoc, trim_append hGaps]
    exact trim_cons (by decide) _
  rw [readValue_eq hOpen, if_neg (by decide), if_pos rfl,
    readObject_eq hClose, if_pos rfl]
  exact ⟨rfl, rfl⟩

theorem readsAs_object
    {members : List SpelledMember}
    (hSome : members ≠ [])
    (hKeys :
      ∀ member ∈ members,
        SpellsKey member.keyText member.key)
    (hReads :
      ∀ member ∈ members,
        ReadsAs member.valueText member.value) :
    ReadsAs
      ('\x7b' ::
        (withCommas (members.map SpelledMember.text) ++
          ['\x7d']))
      (object (.ofList (members.map SpelledMember.entry))) := by
  intro rest _
  have hText :
      '\x7b' ::
            (withCommas (members.map SpelledMember.text) ++
              ['\x7d']) ++
          rest =
        '\x7b' ::
          (withCommas (members.map SpelledMember.text) ++
            '\x7d' :: rest) := by
    rw [List.cons_append, List.append_assoc]
    rfl
  have hOpen :=
    trim_cons (c := '\x7b') rfl
      (withCommas (members.map SpelledMember.text) ++
        '\x7d' :: rest)
  rcases readMembers_withCommas hSome hKeys hReads rest with
    ⟨body, hTrim, hMembers⟩
  rw [hText, readValue_eq hOpen, if_neg (by decide),
    if_pos rfl, readObject_eq hTrim, if_neg (by decide),
    if_pos rfl, hMembers]
  exact ⟨rfl, rfl⟩

------------------------------------------------------------
-- Reading Values
------------------------------------------------------------

/- A spelled value is read, whatever stands behind it. -/
theorem Spells.readsAs
    (hText : Spells text value) :
    ReadsAs text value := by
  induction hText with
  | before hGap hText ih => exact ih.before hGap hText
  | behind hGap _ ih => exact ih.behind hGap
  | null =>
      exact readsAs_of_scalar (by decide) fun _ _ => rfl
  | true =>
      exact readsAs_of_scalar (by decide) fun _ _ => rfl
  | false =>
      exact readsAs_of_scalar (by decide) fun _ _ => rfl
  | number hNumeral => exact readsAs_number hNumeral
  | string hBody => exact readsAs_string hBody
  | emptyList hGaps => exact readsAs_emptyList hGaps
  | list hSome hItems ih => exact readsAs_list hSome hItems ih
  | emptyObject hGaps => exact readsAs_emptyObject hGaps
  | object hSome hKeys _ ih =>
      exact readsAs_object hSome hKeys ih

/- Nothing in a spelled key stops a reader that skips it. -/
theorem SpellsKey.skipFault?_eq_none
    {key : StringLiteral}
    (hText : SpellsKey text key) :
    key.skipFault? = none := by
  cases hText with
  | quoted _ hBody _ => exact hBody.skipFault?_eq_none

/- Nor does anything in a spelled value. -/
theorem Spells.skipFault?_eq_none
    (hText : Spells text value) :
    value.skipFault? = none := by
  induction hText with
  | before _ _ ih => exact ih
  | behind _ _ ih => exact ih
  | null => rfl
  | true => rfl
  | false => rfl
  | number _ => rfl
  | string hBody => exact hBody.skipFault?_eq_none
  | emptyList _ => rfl
  | list _ _ ih =>
      exact
        DraftItems.skipFault?_ofList (List.forall_mem_map.mpr ih)
  | emptyObject _ => rfl
  | object _ hKeys _ ih =>
      apply DraftMembers.skipFault?_ofList
      intro entry hEntry
      rcases List.mem_map.mp hEntry with
        ⟨member, hMember, rfl⟩
      exact
        ⟨(hKeys member hMember).skipFault?_eq_none,
          ih member hMember⟩

end Draft

------------------------------------------------------------
-- Documents
------------------------------------------------------------

/- A text that spells a value holds this value and nothing
   else. -/
theorem JsonDocument.ofText_of_spells
    {text : String}
    {value : Draft}
    (hText : Draft.Spells text.toList value) :
    ofText text = { root := value, hasMore := false } := by
  rcases hText.readsAs [] nofun with ⟨hValue, hBehind⟩
  rw [List.append_nil] at hValue hBehind
  rw [ofText]
  simp only [hValue, hBehind]
  rfl

end LatencySweep
