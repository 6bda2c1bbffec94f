import LatencySweep.Json.Reader
import LatencySweep.Proofs.Text.Words
import Mathlib.Data.List.TakeWhile

/-
  Numerals are scanned as they are spelled.

  A numeral is spelled part by part, and a scan takes in one
  part after the other up to a character that does not go on
  with it. Integers are spelled with their digits only. What
  the digits come to stays below the bound, since it only
  grows.

  Main declarations:
    * `EndsNumeral`
    * `Numeral.Spells`
    * `Numeral.scan_append`
    * `Numeral.exists_of_scan`
    * `Numeral.absorb_toDigits`
    * `Numeral.spells_toString`
    * `Numeral.value_ofInteger`
-/

namespace LatencySweep

------------------------------------------------------------
-- Digits
------------------------------------------------------------

/- A text that no numeral goes on into. -/
def EndsNumeral (text : List Char) : Prop :=
  ∀ c, text.head? = some c →
    isDigit c = false ∧ c ≠ '.' ∧ c ≠ 'e' ∧ c ≠ 'E'

theorem isDigit_of_mem_toDigits
    {n : Nat}
    {c : Char}
    (hDigit : c ∈ Nat.toDigits 10 n) :
    isDigit c = true := by
  have hChar :=
    Nat.isDigit_of_mem_toDigits (by decide) (by decide) hDigit
  simpa [isDigit, Char.isDigit, Char.le_def] using hChar

/- The digits of a positive number do not start with a
   zero. -/
theorem head?_toDigits
    {n : Nat}
    (hPos : 0 < n) :
    (Nat.toDigits 10 n).head? ≠ some '0' := by
  induction n using Nat.strongRecOn with
  | ind n ih =>
      by_cases hSmall : n < 10
      · have hDigits :
            ∀ n < 10, 0 < n →
              (Nat.toDigits 10 n).head? ≠ some '0' := by
          decide
        exact hDigits n hSmall hPos
      · have hLe : 10 ≤ n := Nat.not_lt.mp hSmall
        have hFront : 0 < n / 10 :=
          Nat.div_pos hLe (by decide)
        have hFirst :=
          ih (n / 10) (Nat.div_lt_self hPos (by decide))
            hFront
        rw [Nat.toDigits_of_base_le (by decide) hLe,
          List.head?_append]
        cases hDigits : (Nat.toDigits 10 (n / 10)).head? with
        | none =>
            exact
              absurd (List.head?_eq_none_iff.mp hDigits)
                Nat.toDigits_ne_nil
        | some first => rwa [hDigits] at hFirst

/- Digits, and at least one of them. -/
structure AreDigits (text : List Char) : Prop where
  ne_nil : text ≠ []
  digits : ∀ c ∈ text, isDigit c = true

theorem areDigits_toDigits (n : Nat) :
    AreDigits (Nat.toDigits 10 n) where
  ne_nil := Nat.toDigits_ne_nil
  digits := fun _ => isDigit_of_mem_toDigits

theorem AreDigits.exists_eq_cons
    {text : List Char}
    (hDigits : AreDigits text) :
    ∃ first others,
      text = first :: others ∧ isDigit first = true := by
  rcases List.exists_cons_of_ne_nil hDigits.ne_nil with
    ⟨first, others, rfl⟩
  exact
    ⟨first, others, rfl,
      hDigits.digits first List.mem_cons_self⟩

namespace Numeral

------------------------------------------------------------
-- Spelling
------------------------------------------------------------

/- A fraction has digits behind a point. -/
inductive SpellsFraction :
    List Char → Option (List Char) → Prop where
  | none : SpellsFraction [] none
  | some
      {digits : List Char}
      (hDigits : AreDigits digits) :
      SpellsFraction ('.' :: digits) (some digits)

/- An exponent has digits behind its letter, with or without
   a sign between them. -/
inductive SpellsExponent :
    List Char → Option Int → Prop where
  | none : SpellsExponent [] none
  | unsigned
      {letter : Char}
      {digits : List Char}
      (hLetter : letter = 'e' ∨ letter = 'E')
      (hDigits : AreDigits digits) :
      SpellsExponent (letter :: digits)
        (some (digitsValue digits))
  | plus
      {letter : Char}
      {digits : List Char}
      (hLetter : letter = 'e' ∨ letter = 'E')
      (hDigits : AreDigits digits) :
      SpellsExponent (letter :: '+' :: digits)
        (some (digitsValue digits))
  | minus
      {letter : Char}
      {digits : List Char}
      (hLetter : letter = 'e' ∨ letter = 'E')
      (hDigits : AreDigits digits) :
      SpellsExponent (letter :: '-' :: digits)
        (some (-digitsValue digits))

/- A numeral is spelled by its sign, its whole part without
   needless zeros, its fraction and its exponent. -/
inductive Spells : List Char → Numeral → Prop where
  | parts
      {numeral : Numeral}
      {fraction exponent : List Char}
      (hWhole : AreDigits numeral.whole)
      (hZero :
        numeral.whole.head? = some '0' →
          numeral.whole = ['0'])
      (hFraction : SpellsFraction fraction numeral.fraction)
      (hExponent : SpellsExponent exponent numeral.exponent) :
      Spells
        ((if numeral.negative then ['-'] else []) ++
          (numeral.whole ++ (fraction ++ exponent)))
        numeral

variable {text rest : List Char}

/- A numeral starts with a minus or a digit. -/
theorem Spells.exists_eq_cons
    {numeral : Numeral}
    (hText : Spells text numeral) :
    ∃ c more,
      text = c :: more ∧ (c = '-' ∨ isDigit c = true) := by
  cases hText with
  | parts hWhole hZero hFraction hExponent =>
      rcases hWhole.exists_eq_cons with
        ⟨first, others, hDigits, hFirst⟩
      cases numeral.negative with
      | true => exact ⟨'-', _, rfl, Or.inl rfl⟩
      | false =>
          rw [hDigits]
          exact ⟨first, _, rfl, Or.inr hFirst⟩

------------------------------------------------------------
-- Scanning
------------------------------------------------------------

/- Digits are scanned up to a character that is none. -/
theorem scanDigits_append
    {digits : List Char}
    (hDigits : AreDigits digits)
    (hRest :
      ∀ c, rest.head? = some c → isDigit c = false) :
    scanDigits (digits ++ rest) = .ok (digits, rest) := by
  have hStretch := stretch_append hDigits.digits hRest
  have hSpan :
      spanDigits (digits ++ rest) = (digits, rest) := by
    rw [spanDigits, hStretch.1, hStretch.2]
  rw [scanDigits, hSpan]
  cases digits with
  | nil => exact absurd rfl hDigits.ne_nil
  | cons => rfl

theorem scanWhole_append
    {digits : List Char}
    (hDigits : AreDigits digits)
    (hZero : digits.head? = some '0' → digits = ['0'])
    (hRest :
      ∀ c, rest.head? = some c → isDigit c = false) :
    scanWhole (digits ++ rest) = .ok (digits, rest) := by
  rw [scanWhole, scanDigits_append hDigits hRest]
  split
  next first others _ hMore =>
    injection hMore with hPair
    injection hPair with hText
    rw [hText] at hZero
    cases hZero rfl
  next => rfl

theorem scanFraction_append
    {fraction : Option (List Char)}
    (hText : SpellsFraction text fraction)
    (hRest :
      ∀ c, rest.head? = some c →
        isDigit c = false ∧ c ≠ '.') :
    scanFraction (text ++ rest) = .ok (fraction, rest) := by
  cases hText with
  | none =>
      rw [List.nil_append]
      unfold scanFraction
      split
      next => exact absurd rfl (hRest _ rfl).2
      next => rfl
  | some hDigits =>
      rw [List.cons_append, scanFraction,
        scanDigits_append hDigits fun c hFirst =>
          (hRest c hFirst).1]

theorem scanExponent_append
    {exponent : Option Int}
    (hText : SpellsExponent text exponent)
    (hRest : EndsNumeral rest) :
    scanExponent (text ++ rest) = .ok (exponent, rest) := by
  have hScan {digits : List Char} (hDigits : AreDigits digits) :=
    scanDigits_append hDigits fun c hFirst =>
      (hRest c hFirst).1
  cases hText with
  | none =>
      rw [List.nil_append]
      unfold scanExponent
      split
      next c text =>
        have hLetter := (hRest c rfl).2.2
        rw [if_neg (not_or.mpr hLetter)]
      next => rfl
  | unsigned hLetter hDigits =>
      rcases hDigits.exists_eq_cons with
        ⟨first, others, rfl, hFirst⟩
      have hSign :
          spanSign (first :: others ++ rest) =
            (false, first :: others ++ rest) := by
        unfold spanSign
        split
        next hMinus =>
          injection hMinus with hSame
          rw [hSame] at hFirst
          cases hFirst
        next hPlus =>
          injection hPlus with hSame
          rw [hSame] at hFirst
          cases hFirst
        next => rfl
      rw [List.cons_append, scanExponent, if_pos hLetter,
        scanSigned, hSign, hScan hDigits]
      rfl
  | plus hLetter hDigits =>
      rw [List.cons_append, List.cons_append, scanExponent,
        if_pos hLetter, scanSigned, spanSign, hScan hDigits]
      rfl
  | minus hLetter hDigits =>
      rw [List.cons_append, List.cons_append, scanExponent,
        if_pos hLetter, scanSigned, spanSign, hScan hDigits]
      rfl

/- An exponent starts with neither a digit nor a point. -/
theorem head?_exponent
    {exponent : Option Int}
    (hText : SpellsExponent text exponent)
    (hRest : EndsNumeral rest)
    {c : Char}
    (hFirst : (text ++ rest).head? = some c) :
    isDigit c = false ∧ c ≠ '.' := by
  have hLetter
      (hLetter : c = 'e' ∨ c = 'E') :
      isDigit c = false ∧ c ≠ '.' := by
    rcases hLetter with rfl | rfl <;> decide
  cases hText with
  | none =>
      have hEnds := hRest c hFirst
      exact ⟨hEnds.1, hEnds.2.1⟩
  | unsigned hIs =>
      cases hFirst
      exact hLetter hIs
  | plus hIs =>
      cases hFirst
      exact hLetter hIs
  | minus hIs =>
      cases hFirst
      exact hLetter hIs

/- A fraction starts with no digit, either. -/
theorem head?_fraction
    {fraction : Option (List Char)}
    (hText : SpellsFraction text fraction)
    (hRest :
      ∀ c, rest.head? = some c →
        isDigit c = false ∧ c ≠ '.')
    {c : Char}
    (hFirst : (text ++ rest).head? = some c) :
    isDigit c = false := by
  cases hText with
  | none => exact (hRest c hFirst).1
  | some =>
      cases hFirst
      rfl

/- A numeral is scanned up to where it ends. -/
theorem scan_append
    {numeral : Numeral}
    (hText : Spells text numeral)
    (hRest : EndsNumeral rest) :
    scan (text ++ rest) = .ok (numeral, rest) := by
  cases hText with
  | @parts _ fraction exponent hWhole hZero hFraction
      hExponent =>
      have hBehind (c : Char) :=
        head?_exponent hExponent hRest (c := c)
      have hNoDigit (c : Char) :=
        head?_fraction hFraction hBehind (c := c)
      have hUnsigned :
          scanUnsigned numeral.negative
              (numeral.whole ++
                (fraction ++ (exponent ++ rest))) =
            .ok (numeral, rest) := by
        rw [scanUnsigned, scanWhole_append hWhole hZero hNoDigit]
        dsimp only
        rw [scanFraction_append hFraction hBehind]
        dsimp only
        rw [scanExponent_append hExponent hRest]
      rw [List.append_assoc, List.append_assoc,
        List.append_assoc]
      cases hSign : numeral.negative with
      | true =>
          rw [hSign] at hUnsigned
          exact hUnsigned
      | false =>
          rw [hSign] at hUnsigned
          rcases hWhole.exists_eq_cons with
            ⟨first, others, hDigits, hFirst⟩
          have hMinus : first ≠ '-' := by
            rintro rfl
            cases hFirst
          rw [if_neg Bool.false_ne_true, List.nil_append]
          rw [hDigits] at hUnsigned ⊢
          rw [← hUnsigned]
          unfold scan
          split
          next hSame =>
            injection hSame with hSame
            exact absurd hSame hMinus
          next => rfl

------------------------------------------------------------
-- What a Scan Takes In
------------------------------------------------------------

theorem areDigits_of_scanDigits
    {digits : List Char}
    (hScan : scanDigits text = .ok (digits, rest)) :
    AreDigits digits ∧ text = digits ++ rest := by
  unfold scanDigits spanDigits at hScan
  split at hScan
  next => cases hScan
  next => cases hScan
  next front behind hNoEnd hNoMore hSpan =>
    injection hSpan with hFront hBehind
    cases hScan
    refine ⟨⟨?_, ?_⟩, ?_⟩
    · rintro rfl
      cases rest with
      | nil => exact hNoEnd rfl rfl
      | cons c rest => exact hNoMore c rest rfl rfl
    · intro c hChar
      rw [← hFront] at hChar
      exact List.mem_takeWhile_imp hChar
    · rw [← hFront, ← hBehind]
      exact List.takeWhile_append_dropWhile.symm

theorem areDigits_of_scanWhole
    {digits : List Char}
    (hScan : scanWhole text = .ok (digits, rest)) :
    AreDigits digits ∧
      (digits.head? = some '0' → digits = ['0']) ∧
      text = digits ++ rest := by
  unfold scanWhole at hScan
  split at hScan
  next => cases hScan
  next hOther =>
    rcases areDigits_of_scanDigits hScan with
      ⟨hDigits, hText⟩
    refine ⟨hDigits, ?_, hText⟩
    intro hZero
    cases digits with
    | nil => cases hZero
    | cons first others =>
        cases hZero
        cases others with
        | nil => rfl
        | cons next others =>
            exact absurd hScan (hOther next others rest)

theorem exists_of_scanFraction
    {fraction : Option (List Char)}
    (hScan : scanFraction text = .ok (fraction, rest)) :
    ∃ front,
      SpellsFraction front fraction ∧
        text = front ++ rest := by
  unfold scanFraction at hScan
  split at hScan
  next behind =>
    split at hScan
    next => cases hScan
    next digits more hScanned =>
      cases hScan
      rcases areDigits_of_scanDigits hScanned with
        ⟨hDigits, rfl⟩
      exact ⟨_, .some hDigits, rfl⟩
  next =>
    cases hScan
    exact ⟨[], .none, rfl⟩

theorem exists_of_scanSigned
    {letter : Char}
    {n : Int}
    (hLetter : letter = 'e' ∨ letter = 'E')
    (hScan : scanSigned text = .ok (n, rest)) :
    ∃ front,
      SpellsExponent (letter :: front) (some n) ∧
        text = front ++ rest := by
  unfold scanSigned spanSign at hScan
  split at hScan
  next => cases hScan
  next digits more hScanned =>
    cases hScan
    rcases areDigits_of_scanDigits hScanned with
      ⟨hDigits, hText⟩
    split at hText
    next behind =>
      change behind = _ at hText
      exact
        ⟨'-' :: digits, .minus hLetter hDigits,
          congrArg ('-' :: ·) hText⟩
    next behind =>
      change behind = _ at hText
      exact
        ⟨'+' :: digits, .plus hLetter hDigits,
          congrArg ('+' :: ·) hText⟩
    next =>
      exact ⟨digits, .unsigned hLetter hDigits, hText⟩

theorem exists_of_scanExponent
    {exponent : Option Int}
    (hScan : scanExponent text = .ok (exponent, rest)) :
    ∃ front,
      SpellsExponent front exponent ∧
        text = front ++ rest := by
  unfold scanExponent at hScan
  split at hScan
  next c behind =>
    split at hScan
    next hLetter =>
      split at hScan
      next => cases hScan
      next n more hSigned =>
        cases hScan
        rcases exists_of_scanSigned hLetter hSigned with
          ⟨front, hFront, rfl⟩
        exact ⟨c :: front, hFront, rfl⟩
    next =>
      cases hScan
      exact ⟨[], .none, rfl⟩
  next =>
    cases hScan
    exact ⟨[], .none, rfl⟩

theorem exists_of_scanUnsigned
    {negative : Bool}
    {numeral : Numeral}
    (hScan : scanUnsigned negative text = .ok (numeral, rest)) :
    ∃ front,
      Spells
          ((if negative then ['-'] else []) ++ front)
          numeral ∧
        text = front ++ rest := by
  unfold scanUnsigned at hScan
  split at hScan
  next => cases hScan
  next whole left hFirst =>
    split at hScan
    next => cases hScan
    next fraction left hSecond =>
      split at hScan
      next => cases hScan
      next exponent left hThird =>
        cases hScan
        rcases areDigits_of_scanWhole hFirst with
          ⟨hDigits, hZero, rfl⟩
        rcases exists_of_scanFraction hSecond with
          ⟨fractionText, hFraction, rfl⟩
        rcases exists_of_scanExponent hThird with
          ⟨exponentText, hExponent, rfl⟩
        have hSpells :=
          @Spells.parts
            { negative, whole, fraction, exponent } _ _
            hDigits hZero hFraction hExponent
        refine ⟨_, hSpells, ?_⟩
        simp only [List.append_assoc]

/- What is scanned spells the numeral. -/
theorem exists_of_scan
    {numeral : Numeral}
    (hScan : scan text = .ok (numeral, rest)) :
    ∃ front,
      Spells front numeral ∧ text = front ++ rest := by
  unfold scan at hScan
  split at hScan
  next =>
    rcases exists_of_scanUnsigned hScan with
      ⟨front, hFront, rfl⟩
    exact ⟨_, hFront, rfl⟩
  next =>
    rcases exists_of_scanUnsigned hScan with
      ⟨front, hFront, rfl⟩
    exact ⟨_, hFront, rfl⟩

------------------------------------------------------------
-- Values
------------------------------------------------------------

/- Digits are taken in as long as they stay in range. -/
theorem absorb_eq
    {start : Nat}
    {digits : List Char}
    (hRange : Nat.ofDigitChars 10 digits start < twoTo 64) :
    absorb start digits =
      (Nat.ofDigitChars 10 digits start, []) := by
  have hGrows
      (digits : List Char)
      (start : Nat) :
      start ≤ Nat.ofDigitChars 10 digits start := by
    induction digits generalizing start with
    | nil => simp
    | cons digit digits ih =>
        rw [Nat.ofDigitChars_cons]
        refine Nat.le_trans ?_ (ih _)
        omega
  induction digits generalizing start with
  | nil => rw [absorb, Nat.ofDigitChars_nil]
  | cons digit digits ih =>
      rw [Nat.ofDigitChars_cons, Nat.mul_comm] at hRange ⊢
      have hNext : start * 10 + digitValue digit < twoTo 64 :=
        Nat.lt_of_le_of_lt (hGrows digits _) hRange
      rw [absorb, if_pos hNext]
      exact ih hRange

theorem absorb_toDigits
    {n : Nat}
    (hRange : n < twoTo 64) :
    absorb 0 (Nat.toDigits 10 n) = (n, []) := by
  have hValue :
      Nat.ofDigitChars 10 (Nat.toDigits 10 n) 0 = n :=
    Nat.ofDigitChars_ten_toDigits
  rw [absorb_eq (by rwa [hValue]), hValue]

end Numeral

------------------------------------------------------------
-- Integers
------------------------------------------------------------

/- A number that fits into 64 bits, with a sign or
   without. -/
def FitsWord (n : Int) : Prop :=
  -(twoTo 63 : Int) ≤ n ∧ n < twoTo 64

/- The numeral that is written for an integer. -/
def Numeral.ofInteger (n : Int) : Numeral where
  negative := n < 0
  whole := Nat.toDigits 10 n.natAbs
  fraction := none
  exponent := none

theorem Numeral.spells_toString (n : Int) :
    Spells (toString n).toList (ofInteger n) := by
  have hText :
      (toString n).toList =
        (if (ofInteger n).negative then ['-'] else []) ++
          ((ofInteger n).whole ++ ([] ++ [])) := by
    rw [List.append_nil, List.append_nil]
    cases n with
    | ofNat n => exact Nat.toList_repr
    | negSucc n =>
        have hSign :
            (ofInteger (Int.negSucc n)).negative = true :=
          decide_eq_true (Int.negSucc_lt_zero n)
        change ("-" ++ (n + 1).repr).toList = _
        rw [String.toList_append, Nat.toList_repr, hSign]
        rfl
  have hZero :
      (ofInteger n).whole.head? = some '0' →
        (ofInteger n).whole = ['0'] := by
    intro hFirst
    rcases Nat.eq_zero_or_pos n.natAbs with hNone | hPos
    · unfold ofInteger
      rw [hNone]
      rfl
    · exact absurd hFirst (head?_toDigits hPos)
  rw [hText]
  exact .parts (areDigits_toDigits _) hZero .none .none

/- It stands for the integer if this fits. -/
theorem Numeral.value_ofInteger
    {n : Int}
    (hRange : FitsWord n) :
    (ofInteger n).value = .integer n := by
  rcases hRange with ⟨hLeast, hGreatest⟩
  have hHalf : twoTo 64 = 2 * twoTo 63 := rfl
  have hPos := twoTo_pos 63
  have hWord : n.natAbs < twoTo 64 := by omega
  unfold ofInteger value
  simp only [absorb_toDigits hWord, wholeValue]
  by_cases hSign : n < 0
  · have hZero :
        ¬ (n.natAbs = 0 ∨ twoTo 63 < n.natAbs) := by
      omega
    simp only [hSign, hZero, decide_true, not_true_eq_false,
      if_false]
    congr 1
    omega
  · simp only [hSign, decide_false, Bool.false_eq_true,
      not_false_eq_true, if_true]
    congr 1
    omega

end LatencySweep
