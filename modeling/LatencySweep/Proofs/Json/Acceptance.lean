import LatencySweep.Proofs.Json.Grammar
import Mathlib.Logic.Basic

/-
  What is read without a fault is spelled.

  A reader that meets nothing to stop it when it skips over
  a value has taken in a text that spells this value. Texts
  that spell a value are therefore the ones that it is read
  from without a fault, and with nothing left over.

  Main declarations:
    * `Draft.exists_of_readScalar`
    * `Draft.exists_of_readValue`
    * `Draft.spells_iff`
-/

namespace LatencySweep

namespace Draft

------------------------------------------------------------
-- Blanks and Words
------------------------------------------------------------

theorem exists_gaps (text : List Char) :
    ∃ gaps, AreGaps gaps ∧ text = gaps ++ trim text :=
  ⟨text.takeWhile isGap, fun _ => List.mem_takeWhile_imp,
    List.takeWhile_append_dropWhile.symm⟩

theorem eq_append_of_scanWord
    {word text rest : List Char}
    (hScan : scanWord word text = .ok rest) :
    text = word ++ rest := by
  fun_induction scanWord word text with
  | case1 text =>
      cases hScan
      rfl
  | case2 => cases hScan
  | case3 word c text ih => rw [ih hScan]; rfl
  | case4 => cases hScan

/- A word is spelled by its letters. -/
theorem eq_of_readWord
    {value : Draft}
    {word text : List Char}
    (hFault : (readWord value word text).1.skipFault? = none) :
    readWord value word text =
        (value, (readWord value word text).2) ∧
      text = word ++ (readWord value word text).2 := by
  unfold readWord at hFault ⊢
  split at hFault
  next => cases hFault
  next rest hScan =>
    exact ⟨rfl, eq_append_of_scanWord hScan⟩

------------------------------------------------------------
-- Scalars
------------------------------------------------------------

theorem exists_of_readNumber
    {c : Char}
    {text : List Char}
    (hFault : (readNumber (c :: text)).1.skipFault? = none) :
    ∃ front,
      Spells (c :: front) (readNumber (c :: text)).1 ∧
        text = front ++ (readNumber (c :: text)).2 := by
  unfold readNumber at hFault ⊢
  split at hFault
  next => cases hFault
  next numeral rest hScan =>
    rcases Numeral.exists_of_scan hScan with
      ⟨front, hFront, hText⟩
    rcases hFront.exists_eq_cons with ⟨first, more, rfl, _⟩
    injection hText with hFirst hMore
    rw [← hFirst] at hFront
    exact ⟨more, .number hFront, hMore⟩

theorem exists_of_readString
    {text : List Char}
    (hFault : (readString text).1.skipFault? = none) :
    ∃ front,
      Spells ('"' :: front) (readString text).1 ∧
        text = front ++ (readString text).2 := by
  rcases StringLiteral.exists_of_scan hFault with
    ⟨body, hBody, hText⟩
  refine ⟨body ++ ['"'], .string hBody, ?_⟩
  rw [List.append_assoc]
  exact hText

/- A scalar is spelled from its first character on. -/
theorem exists_of_readScalar
    {c : Char}
    {text : List Char}
    (hFault : (readScalar c text).1.skipFault? = none) :
    ∃ front,
      Spells (c :: front) (readScalar c text).1 ∧
        text = front ++ (readScalar c text).2 := by
  unfold readScalar at hFault ⊢
  by_cases hNull : c = 'n'
  · rw [if_pos hNull] at hFault ⊢
    rcases eq_of_readWord hFault with ⟨hRead, hText⟩
    rw [hRead, hNull]
    exact ⟨_, .null, hText⟩
  rw [if_neg hNull] at hFault ⊢
  by_cases hTrue : c = 't'
  · rw [if_pos hTrue] at hFault ⊢
    rcases eq_of_readWord hFault with ⟨hRead, hText⟩
    rw [hRead, hTrue]
    exact ⟨_, .true, hText⟩
  rw [if_neg hTrue] at hFault ⊢
  by_cases hFalse : c = 'f'
  · rw [if_pos hFalse] at hFault ⊢
    rcases eq_of_readWord hFault with ⟨hRead, hText⟩
    rw [hRead, hFalse]
    exact ⟨_, .false, hText⟩
  rw [if_neg hFalse] at hFault ⊢
  by_cases hQuote : c = '"'
  · rw [if_pos hQuote] at hFault ⊢
    rw [hQuote]
    exact exists_of_readString hFault
  rw [if_neg hQuote] at hFault ⊢
  by_cases hNumeral : c = '-' ∨ isDigit c = true
  · rw [if_pos hNumeral] at hFault ⊢
    exact exists_of_readNumber hFault
  · rw [if_neg hNumeral] at hFault
    cases hFault

------------------------------------------------------------
-- Lists and Objects
------------------------------------------------------------

/- The items of a list and its end are spelled. -/
def SpellsItems
    (text : List Char)
    (items : DraftItems)
    (rest : List Char) : Prop :=
  ∃ spelled : List (List Char × Draft),
    spelled ≠ [] ∧
      (∀ item ∈ spelled, Spells item.1 item.2) ∧
      text =
        withCommas (spelled.map Prod.fst) ++ ']' :: rest ∧
      items = .ofList (spelled.map Prod.snd)

/- The members of an object and its end are spelled. -/
def SpellsMembers
    (text : List Char)
    (members : DraftMembers)
    (rest : List Char) : Prop :=
  ∃ spelled : List SpelledMember,
    spelled ≠ [] ∧
      (∀ member ∈ spelled,
        SpellsKey member.keyText member.key) ∧
      (∀ member ∈ spelled,
        Spells member.valueText member.value) ∧
      text =
        withCommas (spelled.map SpelledMember.text) ++
          '\x7d' :: rest ∧
      members = .ofList (spelled.map SpelledMember.entry)

variable {text front rest behind : List Char}
variable {value : Draft}

/- The last item stands in front of the bracket. -/
theorem SpellsItems.last
    (hText : Spells text value) :
    SpellsItems (text ++ ']' :: rest)
      (.item value (.ended .closed)) rest := by
  refine
    ⟨[(text, value)], List.cons_ne_nil _ _,
      List.forall_mem_singleton.mpr hText, ?_, rfl⟩
  rw [List.map_singleton, withCommas_singleton]

/- Other items stand in front of a comma. -/
theorem SpellsItems.cons
    {items : DraftItems}
    (hFirst : Spells front value)
    (hRest : SpellsItems text items rest) :
    SpellsItems (front ++ ',' :: text) (.item value items)
      rest := by
  rcases hRest with ⟨spelled, hSome, hSpelled, rfl, rfl⟩
  refine
    ⟨(front, value) :: spelled, List.cons_ne_nil _ _,
      List.forall_mem_cons.mpr ⟨hFirst, hSpelled⟩, ?_, rfl⟩
  rw [List.map_cons, withCommas_cons (by simpa using hSome),
    List.append_assoc]
  rfl

/- The last member stands in front of the brace. -/
theorem SpellsMembers.last
    {key : StringLiteral}
    (hKey : SpellsKey front key)
    (hText : Spells text value) :
    SpellsMembers (front ++ ':' :: (text ++ '\x7d' :: rest))
      (.member key value (.ended .closed)) rest := by
  refine
    ⟨[⟨front, key, text, value⟩], List.cons_ne_nil _ _,
      List.forall_mem_singleton.mpr hKey,
      List.forall_mem_singleton.mpr hText, ?_, rfl⟩
  rw [List.map_singleton, withCommas_singleton,
    SpelledMember.text, List.append_assoc]
  rfl

/- Other members stand in front of a comma. -/
theorem SpellsMembers.cons
    {key : StringLiteral}
    {members : DraftMembers}
    (hKey : SpellsKey front key)
    (hText : Spells text value)
    (hRest : SpellsMembers behind members rest) :
    SpellsMembers (front ++ ':' :: (text ++ ',' :: behind))
      (.member key value members) rest := by
  rcases hRest with
    ⟨spelled, hSome, hKeys, hValues, rfl, rfl⟩
  refine
    ⟨⟨front, key, text, value⟩ :: spelled,
      List.cons_ne_nil _ _,
      List.forall_mem_cons.mpr ⟨hKey, hKeys⟩,
      List.forall_mem_cons.mpr ⟨hText, hValues⟩, ?_, rfl⟩
  rw [List.map_cons, withCommas_cons (by simpa using hSome),
    SpelledMember.text]
  simp only [List.append_assoc, List.cons_append]

------------------------------------------------------------
-- Values
------------------------------------------------------------

/- The blanks behind a value belong to its spelling. -/
theorem exists_front
    {left : List Char}
    {c : Char}
    (hRead :
      ∃ front, Spells front value ∧ text = front ++ left)
    (hTrim : trim left = c :: rest) :
    ∃ front, Spells front value ∧ text = front ++ c :: rest := by
  rcases hRead with ⟨front, hFront, rfl⟩
  rcases exists_gaps left with ⟨gaps, hGaps, hLeft⟩
  refine ⟨front ++ gaps, hFront.append_gaps hGaps, ?_⟩
  rw [List.append_assoc, ← hTrim, ← hLeft]

/- So do the blanks on either side of a key. -/
theorem exists_key
    {gaps : List Char}
    (hGaps : AreGaps gaps)
    (hFault : (StringLiteral.scan text).1.skipFault? = none)
    (hColon : trim (StringLiteral.scan text).2 = ':' :: rest) :
    ∃ front,
      SpellsKey front (StringLiteral.scan text).1 ∧
        gaps ++ '"' :: text = front ++ ':' :: rest := by
  rcases StringLiteral.exists_of_scan hFault with
    ⟨body, hBody, hText⟩
  rcases exists_gaps (StringLiteral.scan text).2 with
    ⟨after, hAfter, hLeft⟩
  refine ⟨_, .quoted hGaps hBody hAfter, ?_⟩
  rw [hColon] at hLeft
  rw [hLeft] at hText
  conv => lhs; rw [hText]
  simp only [List.append_assoc, List.cons_append]

mutual

/- What is read without a fault spells the value. -/
theorem exists_of_readValue
    (text : List Char)
    (hFault : (readValue text).1.1.skipFault? = none) :
    ∃ front,
      Spells front (readValue text).1.1 ∧
        text = front ++ (readValue text).1.2 := by
  rcases exists_gaps text with ⟨gaps, hGaps, hText⟩
  match hTrim : trim text with
  | [] =>
      rw [readValue_of_nil hTrim] at hFault
      cases hFault
  | c :: rest =>
      have hLt := length_lt_of_trim hTrim
      have hInner :
          ∃ front,
            Spells (c :: front) (readValue text).1.1 ∧
              rest = front ++ (readValue text).1.2 := by
        rw [readValue_eq hTrim] at hFault ⊢
        split at hFault
        next hList =>
          rw [if_pos hList, hList]
          exact exists_of_readList rest hFault
        next hList =>
          split at hFault
          next hObject =>
            rw [if_neg hList, if_pos hObject, hObject]
            exact exists_of_readObject rest hFault
          next hObject =>
            rw [if_neg hList, if_neg hObject]
            exact exists_of_readScalar hFault
      rcases hInner with ⟨front, hFront, hRest⟩
      refine
        ⟨gaps ++ c :: front, hFront.gaps_append hGaps, ?_⟩
      rw [List.append_assoc, List.cons_append, ← hRest,
        ← hTrim]
      exact hText
termination_by 3 * text.length

/- The same of a list whose bracket is read. -/
theorem exists_of_readList
    (text : List Char)
    (hFault : (readList text).1.1.skipFault? = none) :
    ∃ front,
      Spells ('[' :: front) (.list (readList text).1.1) ∧
        text = front ++ (readList text).1.2 := by
  rcases exists_gaps text with ⟨gaps, hGaps, hText⟩
  match hTrim : trim text with
  | [] =>
      rw [readList_of_nil hTrim] at hFault
      cases hFault
  | c :: rest =>
      rw [readList_eq hTrim] at hFault ⊢
      split at hFault
      next hClose =>
        rw [if_pos hClose]
        refine ⟨gaps ++ [']'], .emptyList hGaps, ?_⟩
        rw [List.append_assoc, List.singleton_append,
          ← hClose, ← hTrim]
        exact hText
      next hClose =>
        rw [if_neg hClose]
        rcases spellsItems_of_readItems text hFault with
          ⟨spelled, hSome, hSpelled, hSame, hItems⟩
        rw [hItems]
        refine ⟨_, .list hSome hSpelled, ?_⟩
        rw [List.append_assoc]
        exact hSame
termination_by 3 * text.length + 2

/- The same of items up to the end of their list. -/
theorem spellsItems_of_readItems
    (text : List Char)
    (hFault : (readItems text).1.1.skipFault? = none) :
    SpellsItems text (readItems text).1.1
      (readItems text).1.2 := by
  match hTrim : trim (readValue text).1.2 with
  | [] =>
      rw [readItems_of_nil hTrim] at hFault
      cases (Option.or_eq_none_iff.mp hFault).2
  | c :: rest =>
      have hLt : rest.length < text.length :=
        Nat.lt_of_lt_of_le (length_lt_of_trim hTrim)
          (readValue text).2
      have hFront
          (hValue :
            (readValue text).1.1.skipFault? = none) :=
        exists_front (exists_of_readValue text hValue) hTrim
      rw [readItems_eq hTrim] at hFault ⊢
      by_cases hClose : c = ']'
      · rw [if_pos hClose] at hFault ⊢
        rcases hFront (Option.or_eq_none_iff.mp hFault).1 with
          ⟨front, hFront, hText⟩
        have hItems :
            SpellsItems (front ++ ']' :: rest) _ rest :=
          .last hFront
        rwa [← hClose, ← hText] at hItems
      rw [if_neg hClose] at hFault ⊢
      by_cases hComma : c = ','
      · rw [if_pos hComma] at hFault ⊢
        by_cases hEnd : (trim rest).head? = some ']'
        · rw [if_pos hEnd] at hFault
          cases (Option.or_eq_none_iff.mp hFault).2
        · rw [if_neg hEnd] at hFault ⊢
          rcases Option.or_eq_none_iff.mp hFault with
            ⟨hValue, hRest⟩
          rcases hFront hValue with ⟨front, hFront, hText⟩
          have hItems :=
            SpellsItems.cons hFront
              (spellsItems_of_readItems rest hRest)
          rwa [← hComma, ← hText] at hItems
      · rw [if_neg hComma] at hFault
        cases (Option.or_eq_none_iff.mp hFault).2
termination_by 3 * text.length + 1

/- The same of an object whose brace is read. -/
theorem exists_of_readObject
    (text : List Char)
    (hFault : (readObject text).1.1.skipFault? = none) :
    ∃ front,
      Spells ('\x7b' :: front) (.object (readObject text).1.1) ∧
        text = front ++ (readObject text).1.2 := by
  rcases exists_gaps text with ⟨gaps, hGaps, hText⟩
  match hTrim : trim text with
  | [] =>
      rw [readObject_of_nil hTrim] at hFault
      cases hFault
  | c :: rest =>
      have hLt := length_lt_of_trim hTrim
      rw [readObject_eq hTrim] at hFault ⊢
      by_cases hClose : c = '\x7d'
      · rw [if_pos hClose]
        refine ⟨gaps ++ ['\x7d'], .emptyObject hGaps, ?_⟩
        rw [List.append_assoc, List.singleton_append,
          ← hClose, ← hTrim]
        exact hText
      rw [if_neg hClose] at hFault ⊢
      by_cases hQuote : c = '"'
      · rw [if_pos hQuote] at hFault ⊢
        rcases spellsMembers_of_readMembers rest hGaps hFault
          with ⟨spelled, hSome, hKeys, hValues, hSame, hAll⟩
        rw [hAll]
        refine ⟨_, .object hSome hKeys hValues, ?_⟩
        rw [List.append_assoc, hText, hTrim, hQuote]
        exact hSame
      · rw [if_neg hQuote] at hFault
        cases hFault
termination_by 3 * text.length + 2

/- The same of members up to the end of their object. -/
theorem spellsMembers_of_readMembers
    (text : List Char)
    {gaps : List Char}
    (hGaps : AreGaps gaps)
    (hFault : (readMembers text).1.1.skipFault? = none) :
    SpellsMembers (gaps ++ '"' :: text)
      (readMembers text).1.1 (readMembers text).1.2 := by
  by_cases hKey :
      (trim (StringLiteral.scan text).2).head? = some ':'
  · rcases List.head?_eq_some_iff.mp hKey with
      ⟨behind, hColon⟩
    have hBehind : behind.length < text.length :=
      Nat.lt_of_lt_of_le (length_lt_of_trim hColon)
        (StringLiteral.length_scan_le text)
    match hTrim : trim (readValue behind).1.2 with
    | [] =>
        rw [readMembers_of_nil hColon hTrim] at hFault
        have hRest := (Option.or_eq_none_iff.mp hFault).2
        cases (Option.or_eq_none_iff.mp hRest).2
    | c :: rest =>
        have hLt : rest.length < text.length :=
          Nat.lt_trans
            (Nat.lt_of_lt_of_le (length_lt_of_trim hTrim)
              (readValue behind).2)
            hBehind
        have hFront
            (hValue :
              (readValue behind).1.1.skipFault? = none) :=
          exists_front (exists_of_readValue behind hValue)
            hTrim
        rw [readMembers_eq hColon hTrim] at hFault ⊢
        by_cases hClose : c = '\x7d'
        · rw [if_pos hClose] at hFault ⊢
          rcases Option.or_eq_none_iff.mp hFault with
            ⟨hName, hRest⟩
          rcases exists_key hGaps hName hColon with
            ⟨key, hKey, hText⟩
          rcases hFront (Option.or_eq_none_iff.mp hRest).1 with
            ⟨front, hFront, hMore⟩
          have hMembers :
              SpellsMembers
                (key ++ ':' :: (front ++ '\x7d' :: rest)) _
                rest :=
            .last hKey hFront
          rwa [← hClose, ← hMore, ← hText] at hMembers
        rw [if_neg hClose] at hFault ⊢
        by_cases hComma : c = ','
        · rw [if_pos hComma] at hFault ⊢
          rcases Option.or_eq_none_iff.mp hFault with
            ⟨hName, hRest⟩
          rcases Option.or_eq_none_iff.mp hRest with
            ⟨hValue, hNext⟩
          rcases exists_key hGaps hName hColon with
            ⟨key, hKey, hText⟩
          rcases hFront hValue with ⟨front, hFront, hMore⟩
          have hMembers :=
            SpellsMembers.cons hKey hFront
              (spellsMembers_of_readNextMember rest hNext)
          rwa [← hComma, ← hMore, ← hText] at hMembers
        · rw [if_neg hComma] at hFault
          have hRest := (Option.or_eq_none_iff.mp hFault).2
          cases (Option.or_eq_none_iff.mp hRest).2
  · rcases readMembers_of_no_colon hKey with
      ⟨textEnds, hRead⟩
    rw [hRead] at hFault
    cases hFault
termination_by 3 * text.length

/- The same of the members behind a comma. -/
theorem spellsMembers_of_readNextMember
    (text : List Char)
    (hFault : (readNextMember text).1.1.skipFault? = none) :
    SpellsMembers text (readNextMember text).1.1
      (readNextMember text).1.2 := by
  rcases exists_gaps text with ⟨gaps, hGaps, hText⟩
  match hTrim : trim text with
  | [] =>
      rw [readNextMember_of_nil hTrim] at hFault
      cases hFault
  | c :: rest =>
      have hLt := length_lt_of_trim hTrim
      rw [readNextMember_eq hTrim] at hFault ⊢
      by_cases hClose : c = '\x7d'
      · rw [if_pos hClose] at hFault
        cases hFault
      rw [if_neg hClose] at hFault ⊢
      by_cases hQuote : c = '"'
      · rw [if_pos hQuote] at hFault ⊢
        rw [hTrim, hQuote] at hText
        rw [hText]
        exact spellsMembers_of_readMembers rest hGaps hFault
      · rw [if_neg hQuote] at hFault
        cases hFault
termination_by 3 * text.length + 1

end

/- The texts that spell a value are the ones that it is
   read from without a fault and with nothing but blanks
   behind it. -/
theorem spells_iff :
    Spells text value ↔
      (readValue text).1.1 = value ∧
        trim (readValue text).1.2 = [] ∧
          value.skipFault? = none := by
  constructor
  · intro hText
    rcases hText.readsAs [] nofun with ⟨hValue, hBehind⟩
    rw [List.append_nil] at hValue hBehind
    exact ⟨hValue, hBehind, hText.skipFault?_eq_none⟩
  · rintro ⟨rfl, hEnd, hFault⟩
    rcases exists_of_readValue text hFault with
      ⟨front, hFront, hText⟩
    rcases exists_gaps (readValue text).1.2 with
      ⟨gaps, hGaps, hLeft⟩
    rw [hEnd, List.append_nil] at hLeft
    rw [hLeft] at hText
    have hSpells := hFront.append_gaps hGaps
    rwa [← hText] at hSpells

deriving instance DecidableEq for
  Draft, DraftItems, DraftMembers

/- Whether a text spells a value is found out by reading
   it. -/
instance (text : List Char) (value : Draft) :
    Decidable (Spells text value) :=
  decidable_of_iff _ spells_iff.symm

end Draft

end LatencySweep
