import LatencySweep.Proofs.Number.Text

/-
  What texts are read as numbers.

  A whole number is spelled by a sign and digits. A float is
  spelled by a sign and either a name or a decimal, which is
  digits with a point and an exponent or without them. Every
  text that is spelled like this is read, as the number that
  it spells, and no other text is.

  Main declarations:
    * `SpellsSign`
    * `SpellsInt64`
    * `readInt64?_eq_some_iff`
    * `Binary64.SpellsDecimal`
    * `Binary64.SpellsFloat`
    * `Binary64.read?_eq_some_iff`
-/

namespace LatencySweep

------------------------------------------------------------
-- Signs and Digits
------------------------------------------------------------

/- A sign, and whether it is negative. -/
inductive SpellsSign : List Char → Bool → Prop where
  | none : SpellsSign [] false
  | plus : SpellsSign ['+'] false
  | minus : SpellsSign ['-'] true

/- Digits do not start with a sign. -/
theorem AreDigits.ne_cons
    {digits rest : List Char}
    {sign : Char}
    (hDigits : AreDigits digits)
    (hSign : isDigit sign = false) :
    digits ≠ sign :: rest := by
  rintro rfl
  have hDigit := hDigits.digits sign List.mem_cons_self
  rw [hSign] at hDigit
  cases hDigit

theorem natural?_eq_some_iff
    {text : List Char}
    {n : Nat} :
    natural? text = some n ↔
      AreDigits text ∧ n = digitsValue text := by
  unfold natural?
  rw [ite_eq_iff, List.all_eq_true]
  constructor
  · rintro (⟨⟨hSome, hDigits⟩, hValue⟩ | ⟨-, hNone⟩)
    · exact ⟨⟨hSome, hDigits⟩, (Option.some.inj hValue).symm⟩
    · cases hNone
  · rintro ⟨⟨hSome, hDigits⟩, rfl⟩
    exact Or.inl ⟨⟨hSome, hDigits⟩, rfl⟩

/- The number that the digits stand for may be asked for
   more. -/
theorem natural?_bind_eq_some_iff
    {text : List Char}
    {fits : Nat → Prop}
    [DecidablePred fits]
    {f : Nat → Int}
    {n : Int} :
    (do
      let value ← natural? text
      if fits value then some (f value) else none) =
        some n ↔
      AreDigits text ∧ fits (digitsValue text) ∧
        n = f (digitsValue text) := by
  change (natural? text).bind _ = some n ↔ _
  rw [Option.bind_eq_some_iff]
  constructor
  · rintro ⟨value, hValue, hRead⟩
    rcases natural?_eq_some_iff.mp hValue with ⟨hDigits, rfl⟩
    split at hRead
    next hFits =>
      exact ⟨hDigits, hFits, (Option.some.inj hRead).symm⟩
    next => cases hRead
  · rintro ⟨hDigits, hFits, rfl⟩
    exact
      ⟨_, natural?_eq_some_iff.mpr ⟨hDigits, rfl⟩,
        if_pos hFits⟩

theorem natural?_cast_eq_some_iff
    {text : List Char}
    {n : Int} :
    (do
      let value ← natural? text
      pure (value : Int)) =
        some n ↔
      AreDigits text ∧ n = digitsValue text := by
  change (natural? text).bind _ = some n ↔ _
  rw [Option.bind_eq_some_iff]
  constructor
  · rintro ⟨value, hValue, hSame⟩
    rcases natural?_eq_some_iff.mp hValue with ⟨hDigits, rfl⟩
    exact ⟨hDigits, (Option.some.inj hSame).symm⟩
  · rintro ⟨hDigits, rfl⟩
    exact ⟨_, natural?_eq_some_iff.mpr ⟨hDigits, rfl⟩, rfl⟩

------------------------------------------------------------
-- Whole Numbers
------------------------------------------------------------

/- A whole number that fits into 64 bits is spelled by its
   sign and its digits. -/
inductive SpellsInt64 : List Char → Int → Prop where
  | plus
      {sign digits : List Char}
      (hSign : SpellsSign sign false)
      (hDigits : AreDigits digits)
      (hFits : digitsValue digits < 2 ^ 63) :
      SpellsInt64 (sign ++ digits) (digitsValue digits)
  | minus
      {sign digits : List Char}
      (hSign : SpellsSign sign true)
      (hDigits : AreDigits digits)
      (hFits : digitsValue digits ≤ 2 ^ 63) :
      SpellsInt64 (sign ++ digits) (-digitsValue digits)

/- The whole numbers that are read are those spelled. -/
theorem readInt64?_eq_some_iff
    {text : List Char}
    {n : Int} :
    readInt64? text = some n ↔ SpellsInt64 text n := by
  constructor
  · intro hRead
    unfold readInt64? at hRead
    split at hRead
    next digits =>
      rcases natural?_bind_eq_some_iff.mp hRead with
        ⟨hDigits, hFits, rfl⟩
      exact .minus .minus hDigits hFits
    next digits =>
      rcases natural?_bind_eq_some_iff.mp hRead with
        ⟨hDigits, hFits, rfl⟩
      exact .plus .plus hDigits hFits
    next =>
      rcases natural?_bind_eq_some_iff.mp hRead with
        ⟨hDigits, hFits, rfl⟩
      exact .plus .none hDigits hFits
  · intro hText
    cases hText with
    | @plus sign digits hSign hDigits hFits =>
        have hRead :
            readInt64? ('+' :: digits) =
              some (digitsValue digits : Int) :=
          natural?_bind_eq_some_iff.mpr ⟨hDigits, hFits, rfl⟩
        cases hSign with
        | plus => exact hRead
        | none =>
            rw [List.nil_append]
            unfold readInt64?
            split
            next => exact absurd rfl (hDigits.ne_cons rfl)
            next => exact absurd rfl (hDigits.ne_cons rfl)
            next => exact hRead
    | minus hSign hDigits hFits =>
        cases hSign with
        | minus =>
            exact
              natural?_bind_eq_some_iff.mpr
                ⟨hDigits, hFits, rfl⟩

namespace Binary64

------------------------------------------------------------
-- Decimals
------------------------------------------------------------

/- The digits behind a point, if there is one. -/
inductive SpellsPart : List Char → List Char → Prop where
  | none : SpellsPart [] []
  | point
      {digits : List Char}
      (hDigits : ∀ c ∈ digits, isDigit c = true) :
      SpellsPart ('.' :: digits) digits

theorem SpellsPart.isDigit
    {part digits : List Char}
    (hPart : SpellsPart part digits)
    {c : Char}
    (hChar : c ∈ digits) :
    isDigit c = true := by
  cases hPart with
  | none => cases hChar
  | point hDigits => exact hDigits c hChar

/- A decimal has digits on at least one side of its point,
   and an exponent or none. -/
inductive SpellsDecimal : List Char → Decimal → Prop where
  | parts
      {whole part fraction scale : List Char}
      {exponent : Option Int}
      (hDigits : AreDigits (whole ++ fraction))
      (hPart : SpellsPart part fraction)
      (hScale : Numeral.SpellsExponent scale exponent) :
      SpellsDecimal (whole ++ (part ++ scale))
        ⟨digitsValue (whole ++ fraction),
          exponent.getD 0 - fraction.length⟩

variable {text : List Char}

/- An exponent is digits with a sign in front of them. -/
theorem readExponent?_eq_some_iff
    {letter : Char}
    (hLetter : letter = 'e' ∨ letter = 'E')
    {n : Int} :
    readExponent? text = some n ↔
      Numeral.SpellsExponent (letter :: text) (some n) := by
  unfold readExponent?
  constructor
  · intro hRead
    split at hRead
    next digits =>
      rcases Option.map_eq_some_iff.mp hRead with
        ⟨value, hValue, rfl⟩
      rcases natural?_cast_eq_some_iff.mp hValue with
        ⟨hDigits, rfl⟩
      exact .minus hLetter hDigits
    next digits =>
      rcases Option.map_eq_some_iff.mp hRead with
        ⟨value, hValue, rfl⟩
      rcases natural?_cast_eq_some_iff.mp hValue with
        ⟨hDigits, rfl⟩
      exact .plus hLetter hDigits
    next =>
      rcases Option.map_eq_some_iff.mp hRead with
        ⟨value, hValue, rfl⟩
      rcases natural?_cast_eq_some_iff.mp hValue with
        ⟨hDigits, rfl⟩
      exact .unsigned hLetter hDigits
  · intro hText
    have hValue {digits : List Char} (hDigits : AreDigits digits) :=
      natural?_cast_eq_some_iff.mpr ⟨hDigits, rfl⟩
    cases hText with
    | unsigned _ hDigits =>
        split
        next => exact absurd rfl (hDigits.ne_cons rfl)
        next => exact absurd rfl (hDigits.ne_cons rfl)
        next =>
          exact congrArg (Option.map fun n => n) (hValue hDigits)
    | plus _ hDigits =>
        exact congrArg (Option.map fun n => n) (hValue hDigits)
    | minus _ hDigits =>
        exact congrArg (Option.map fun n => -n) (hValue hDigits)

/- Without an exponent, the scale is zero. -/
theorem readScale?_eq_some_iff
    {n : Int} :
    readScale? text = some n ↔
      ∃ exponent,
        Numeral.SpellsExponent text exponent ∧
          n = exponent.getD 0 := by
  constructor
  · intro hRead
    unfold readScale? at hRead
    split at hRead
    next =>
      cases hRead
      exact ⟨none, .none, rfl⟩
    next =>
      rw [readExponent?_eq_some_iff (Or.inl rfl)] at hRead
      exact ⟨some n, hRead, rfl⟩
    next =>
      rw [readExponent?_eq_some_iff (Or.inr rfl)] at hRead
      exact ⟨some n, hRead, rfl⟩
    next => cases hRead
  · rintro ⟨exponent, hText, rfl⟩
    have hLetter
        {letter : Char}
        {rest : List Char}
        {n : Int}
        (hLetter : letter = 'e' ∨ letter = 'E')
        (hText :
          Numeral.SpellsExponent (letter :: rest) (some n)) :
        readScale? (letter :: rest) = some n := by
      have hRead := (readExponent?_eq_some_iff hLetter).mpr hText
      rcases hLetter with rfl | rfl
      · exact hRead
      · exact hRead
    cases hText with
    | none => rfl
    | unsigned hIs hDigits =>
        exact hLetter hIs (.unsigned hIs hDigits)
    | plus hIs hDigits =>
        exact hLetter hIs (.plus hIs hDigits)
    | minus hIs hDigits =>
        exact hLetter hIs (.minus hIs hDigits)

/- The text is cut into digits, a point with digits and the
   rest. -/
theorem exists_parts (text : List Char) :
    ∃ part,
      SpellsPart part (spanFraction (spanDigits text).2).1 ∧
        text =
          (spanDigits text).1 ++
            (part ++ (spanFraction (spanDigits text).2).2) := by
  have hText :
      text = (spanDigits text).1 ++ (spanDigits text).2 :=
    List.takeWhile_append_dropWhile.symm
  generalize (spanDigits text).2 = behind at hText
  unfold spanFraction
  split
  next rest =>
    refine ⟨'.' :: (spanDigits rest).1, .point ?_, ?_⟩
    · intro c hChar
      exact List.mem_takeWhile_imp hChar
    · have hRest :
          (spanDigits rest).1 ++ (spanDigits rest).2 = rest :=
        List.takeWhile_append_dropWhile
      rw [List.cons_append, hRest]
      exact hText
  next rest =>
    exact ⟨[], .none, hText⟩

/- Behind the parts of a decimal, digits are not gone on
   with. -/
theorem spanParts_append
    {whole part fraction scale : List Char}
    {exponent : Option Int}
    (hDigits : AreDigits (whole ++ fraction))
    (hPart : SpellsPart part fraction)
    (hScale : Numeral.SpellsExponent scale exponent) :
    spanDigits (whole ++ (part ++ scale)) =
        (whole, part ++ scale) ∧
      spanFraction (part ++ scale) = (fraction, scale) := by
  have hWhole := fun c hChar =>
    hDigits.digits c (List.mem_append_left fraction hChar)
  have hEnds (c : Char) (hFirst : scale.head? = some c) :
      isDigit c = false ∧ c ≠ '.' := by
    rw [← List.append_nil scale] at hFirst
    exact
      Numeral.head?_exponent hScale
        (fun _ hNone => by cases hNone) hFirst
  cases hPart with
  | none =>
      rw [List.nil_append]
      refine
        ⟨spanDigits_append hWhole fun c hFirst =>
          (hEnds c hFirst).1, ?_⟩
      unfold spanFraction
      split
      next => exact absurd rfl (hEnds '.' rfl).2
      next => rfl
  | point hFraction =>
      refine ⟨spanDigits_append hWhole ?_, ?_⟩
      · intro c hFirst
        cases hFirst
        rfl
      · exact
          spanDigits_append hFraction fun c hFirst =>
            (hEnds c hFirst).1

/- The decimals that are read are those spelled. -/
theorem readDecimal?_eq_some_iff
    {negative : Bool}
    {x : Binary64} :
    readDecimal? negative text = some x ↔
      ∃ d,
        SpellsDecimal text d ∧
          x = ofDecimal negative d.coefficient d.exponent := by
  constructor
  · intro hRead
    unfold readDecimal? at hRead
    dsimp only at hRead
    split at hRead
    next => cases hRead
    next hSome =>
      rcases Option.map_eq_some_iff.mp hRead with
        ⟨n, hScale, rfl⟩
      rcases readScale?_eq_some_iff.mp hScale with
        ⟨exponent, hExponent, rfl⟩
      rcases exists_parts text with ⟨part, hPart, hText⟩
      have hDigits :
          AreDigits
            ((spanDigits text).1 ++
              (spanFraction (spanDigits text).2).1) := by
        refine ⟨?_, ?_⟩
        · rwa [Ne, List.append_eq_nil_iff]
        · intro c hChar
          rcases List.mem_append.mp hChar with hWhole | hFraction
          · exact List.mem_takeWhile_imp hWhole
          · exact hPart.isDigit hFraction
      have hSpells := SpellsDecimal.parts hDigits hPart hExponent
      rw [← hText] at hSpells
      exact ⟨_, hSpells, rfl⟩
  · rintro ⟨d, hText, rfl⟩
    cases hText with
    | @parts whole part fraction scale exponent hDigits hPart
        hScale =>
        rcases spanParts_append hDigits hPart hScale with
          ⟨hFirst, hSecond⟩
        have hSome : ¬ (whole = [] ∧ fraction = []) := by
          rw [← List.append_eq_nil_iff]
          exact hDigits.ne_nil
        unfold readDecimal?
        rw [hFirst]
        dsimp only
        rw [hSecond]
        dsimp only
        rw [if_neg hSome,
          readScale?_eq_some_iff.mpr ⟨exponent, hScale, rfl⟩]
        rfl

/- A decimal starts with a digit or a point. -/
theorem SpellsDecimal.exists_eq_cons
    {d : Decimal}
    (hText : SpellsDecimal text d) :
    ∃ c rest, text = c :: rest ∧ StartsDecimal c := by
  cases hText with
  | @parts whole part fraction scale exponent hDigits hPart
      hScale =>
      cases whole with
      | cons c whole =>
          have hDigit := hDigits.digits c List.mem_cons_self
          exact ⟨c, _, rfl, Or.inl hDigit⟩
      | nil =>
          cases hPart with
          | none => exact absurd rfl hDigits.ne_nil
          | point => exact ⟨'.', _, rfl, Or.inr rfl⟩

------------------------------------------------------------
-- Floats
------------------------------------------------------------

/- A name of infinity. -/
def NamesInfinity (word : List Char) : Prop :=
  word.map Char.toLower = "inf".toList ∨
    word.map Char.toLower = "infinity".toList

/- A name of a NaN. -/
def NamesNaN (word : List Char) : Prop :=
  word.map Char.toLower = "nan".toList

/-
  A float is spelled by its sign and a name or a decimal. It
  is nearest to the decimal, or infinite if the nearest
  magnitude is not that of a finite float.
-/
inductive SpellsFloat : List Char → Binary64 → Prop where
  | infinite
      {sign word : List Char}
      {negative : Bool}
      (hSign : SpellsSign sign negative)
      (hWord : NamesInfinity word) :
      SpellsFloat (sign ++ word) (infinity negative)
  | nan
      {sign word : List Char}
      {negative : Bool}
      (hSign : SpellsSign sign negative)
      (hWord : NamesNaN word) :
      SpellsFloat (sign ++ word) (nan negative)
  | decimal
      {sign text : List Char}
      {d : Decimal}
      {magnitude : Nat}
      {x : Binary64}
      (hSign : SpellsSign sign x.negative)
      (hText : SpellsDecimal text d)
      (hNearest : IsNearestDecimal magnitude d)
      (hMagnitude :
        x.magnitude = min infinityMagnitude magnitude) :
      SpellsFloat (sign ++ text) x

/- What stands behind a sign is a name or a decimal. -/
theorem readUnsigned?_eq_some_iff
    {negative : Bool}
    {x : Binary64} :
    readUnsigned? negative text = some x ↔
      NamesInfinity text ∧ x = infinity negative ∨
        NamesNaN text ∧ x = nan negative ∨
        ∃ d,
          SpellsDecimal text d ∧
            x = ofDecimal negative d.coefficient d.exponent := by
  rw [← readDecimal?_eq_some_iff]
  constructor
  · intro hRead
    unfold readUnsigned? at hRead
    dsimp only at hRead
    split at hRead
    next hName =>
      cases hRead
      exact Or.inl ⟨hName, rfl⟩
    next =>
      split at hRead
      next hName =>
        cases hRead
        exact Or.inr (Or.inl ⟨hName, rfl⟩)
      next => exact Or.inr (Or.inr hRead)
  · rintro (⟨hName, rfl⟩ | ⟨hName, rfl⟩ | hRead)
    · exact if_pos hName
    · unfold NamesNaN at hName
      unfold readUnsigned?
      dsimp only
      rw [hName]
      rfl
    · rcases readDecimal?_eq_some_iff.mp hRead with
        ⟨d, hText, -⟩
      rcases hText.exists_eq_cons with ⟨c, rest, rfl, hStarts⟩
      rw [readUnsigned?_cons negative hStarts]
      exact hRead

/- A name does not start with a sign. -/
theorem ne_cons_of_names
    {rest : List Char}
    {sign : Char}
    (hSign : sign = '-' ∨ sign = '+')
    (hName : NamesInfinity text ∨ NamesNaN text) :
    text ≠ sign :: rest := by
  rintro rfl
  have hLower : sign.toLower = sign := by
    rcases hSign with rfl | rfl <;> rfl
  have hLetter : sign = 'i' ∨ sign = 'n' := by
    rcases hName with (hInf | hInfinity) | hNaN
    · rw [List.map_cons, hLower] at hInf
      exact Or.inl (List.cons.inj hInf).1
    · rw [List.map_cons, hLower] at hInfinity
      exact Or.inl (List.cons.inj hInfinity).1
    · rw [NamesNaN, List.map_cons, hLower] at hNaN
      exact Or.inr (List.cons.inj hNaN).1
  rcases hSign with rfl | rfl <;> revert hLetter <;> decide

/- A text that is read behind a sign has no further one. -/
theorem ne_cons_of_readUnsigned?
    {negative : Bool}
    {x : Binary64}
    {rest : List Char}
    {sign : Char}
    (hSign : sign = '-' ∨ sign = '+')
    (hRead : readUnsigned? negative text = some x) :
    text ≠ sign :: rest := by
  rcases readUnsigned?_eq_some_iff.mp hRead with
    ⟨hName, -⟩ | ⟨hName, -⟩ | ⟨d, hText, -⟩
  · exact ne_cons_of_names hSign (Or.inl hName)
  · exact ne_cons_of_names hSign (Or.inr hName)
  · rcases hText.exists_eq_cons with ⟨c, other, rfl, hStarts⟩
    intro hSame
    cases hSame
    revert hStarts
    rcases hSign with rfl | rfl <;> decide

/- Signs are read in front of what they belong to. -/
theorem read?_eq_some_iff_signed
    {x : Binary64} :
    read? text = some x ↔
      ∃ sign negative rest,
        text = sign ++ rest ∧ SpellsSign sign negative ∧
          readUnsigned? negative rest = some x := by
  constructor
  · intro hRead
    unfold read? at hRead
    split at hRead
    next rest => exact ⟨['-'], true, rest, rfl, .minus, hRead⟩
    next rest => exact ⟨['+'], false, rest, rfl, .plus, hRead⟩
    next => exact ⟨[], false, text, rfl, .none, hRead⟩
  · rintro ⟨sign, negative, rest, rfl, hSign, hRead⟩
    cases hSign with
    | plus => exact hRead
    | minus => exact hRead
    | none =>
        rw [List.nil_append]
        unfold read?
        split
        next =>
          exact
            absurd rfl
              (ne_cons_of_readUnsigned? (Or.inl rfl) hRead)
        next =>
          exact
            absurd rfl
              (ne_cons_of_readUnsigned? (Or.inr rfl) hRead)
        next => exact hRead

/- The floats that are read are those spelled. -/
theorem read?_eq_some_iff
    {x : Binary64} :
    read? text = some x ↔ SpellsFloat text x := by
  rw [read?_eq_some_iff_signed]
  constructor
  · rintro ⟨sign, negative, rest, rfl, hSign, hRead⟩
    rcases readUnsigned?_eq_some_iff.mp hRead with
      ⟨hName, rfl⟩ | ⟨hName, rfl⟩ | ⟨d, hText, rfl⟩
    · exact .infinite hSign hName
    · exact .nan hSign hName
    · rcases exists_isNearestDecimal d with
        ⟨magnitude, hNearest⟩
      rw [← negative_ofDecimal negative d.coefficient
        d.exponent] at hSign
      exact
        .decimal hSign hText hNearest
          (magnitude_ofDecimal negative hNearest)
  · intro hText
    cases hText with
    | infinite hSign hName =>
        exact
          ⟨_, _, _, rfl, hSign,
            readUnsigned?_eq_some_iff.mpr
              (Or.inl ⟨hName, rfl⟩)⟩
    | nan hSign hName =>
        exact
          ⟨_, _, _, rfl, hSign,
            readUnsigned?_eq_some_iff.mpr
              (Or.inr (Or.inl ⟨hName, rfl⟩))⟩
    | @decimal _ _ d _ _ hSign hText hNearest hMagnitude =>
        refine
          ⟨_, _, _, rfl, hSign,
            readUnsigned?_eq_some_iff.mpr
              (Or.inr (Or.inr ⟨d, hText, ?_⟩))⟩
        rw [← magnitude_ofDecimal x.negative hNearest]
          at hMagnitude
        exact
          eq_of_magnitude (negative_ofDecimal _ _ _).symm
            hMagnitude

/- A text spells one float only. -/
theorem SpellsFloat.unique
    {x y : Binary64}
    (hX : SpellsFloat text x)
    (hY : SpellsFloat text y) :
    x = y := by
  have hRead := read?_eq_some_iff.mpr hX
  rw [read?_eq_some_iff.mpr hY] at hRead
  exact (Option.some.inj hRead).symm

end Binary64

end LatencySweep
