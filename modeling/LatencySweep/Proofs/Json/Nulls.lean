import Mathlib.Data.List.Infix
import LatencySweep.Json.Printer
import LatencySweep.Proofs.Number.Text

/-
  Where the text of a value says `null`.

  The parts of a text in one line are kept apart by
  characters that the word does not have, and numbers are
  written without its letters. So the word is in the text
  just when a part of the value is null, has no number to
  show, or holds the word itself.

  Main declarations:
    * `infix_append_cons_iff`
    * `IsNumberText`
    * `Json.HasNull`
    * `Json.saysNull_write_iff`
-/

namespace LatencySweep

------------------------------------------------------------
-- Words in Texts
------------------------------------------------------------

/- A word does not go on over a character that it does not
   have. -/
theorem infix_append_cons_iff
    {α : Type}
    {word front back : List α}
    {c : α}
    (hChar : c ∉ word) :
    word <:+: front ++ c :: back ↔
      word <:+: front ∨ word <:+: back := by
  constructor
  · rintro ⟨before, behind, hText⟩
    rcases List.append_eq_append_iff.mp hText with
      ⟨rest, hFront, -⟩ | ⟨rest, hFront, hBack⟩
    · exact Or.inl ⟨before, rest, hFront.symm⟩
    · cases rest with
      | nil =>
          rw [List.append_nil] at hFront
          exact Or.inl ⟨before, [], by rw [hFront]; simp⟩
      | cons first rest =>
          rw [List.cons_append, List.cons.injEq] at hBack
          rcases hBack with ⟨rfl, rfl⟩
          rcases List.append_eq_append_iff.mp hFront with
            ⟨part, -, rfl⟩ | ⟨part, -, hPart⟩
          · exact absurd (by simp) hChar
          · cases part with
            | nil =>
                rw [List.nil_append] at hPart
                exact absurd (hPart ▸ List.mem_cons_self) hChar
            | cons other part =>
                rw [List.cons_append, List.cons.injEq] at hPart
                rw [hPart.2]
                exact Or.inr ⟨part, behind, rfl⟩
  · rintro (hFront | hBack)
    · exact hFront.trans (List.prefix_append _ _).isInfix
    · exact
        hBack.trans
          ((List.suffix_cons c back).trans
            (List.suffix_append _ _)).isInfix

------------------------------------------------------------
-- Numbers
------------------------------------------------------------

/- Digits, a point, signs and the mark of an exponent. -/
def IsNumberText (text : List Char) : Prop :=
  ∀ c ∈ text, isDigit c = true ∨ c ∈ ['.', '-', '+', 'e']

-- The text is searched: instance search may find the
-- instance that runs over every character there is.
instance (text : List Char) :
    Decidable (IsNumberText text) :=
  List.decidableBAll _ text

namespace IsNumberText

variable {text other : List Char}

theorem of_digits
    (hDigits : ∀ c ∈ text, isDigit c = true) :
    IsNumberText text := fun c hMem =>
  Or.inl (hDigits c hMem)

theorem append
    (hText : IsNumberText text)
    (hOther : IsNumberText other) :
    IsNumberText (text ++ other) := by
  intro c hMem
  rcases List.mem_append.mp hMem with hFront | hBack
  · exact hText c hFront
  · exact hOther c hBack

theorem of_subset
    (hText : IsNumberText text)
    (hSubset : other ⊆ text) :
    IsNumberText other := fun c hMem =>
  hText c (hSubset hMem)

/- No other letter occurs. -/
theorem letter_notMem
    (hText : IsNumberText text)
    {c : Char}
    (hDigit : isDigit c = false)
    (hOther : c ∉ ['.', '-', '+', 'e']) :
    c ∉ text := by
  intro hMem
  rcases hText c hMem with hIs | hIs
  · rw [hDigit] at hIs
    cases hIs
  · exact hOther hIs

end IsNumberText

namespace Decimal

theorem isNumberText_zeros (k : Nat) :
    IsNumberText (zeros k) :=
  .of_digits fun _ => isDigit_of_mem_zeros

theorem isNumberText_decimalDigits (n : Nat) :
    IsNumberText (decimalDigits n) :=
  .of_digits fun _ => isDigit_of_mem_decimalDigits

theorem isNumberText_significant (d : Decimal) :
    IsNumberText d.significant :=
  .of_digits fun _ => isDigit_of_mem_significant

theorem isNumberText_positional
    (d : Decimal)
    {ending : List Char}
    (hEnding : IsNumberText ending) :
    IsNumberText (d.positional ending) := by
  have hDigits := d.isNumberText_significant
  unfold positional
  dsimp only
  split
  next =>
    exact
      (IsNumberText.append (by decide)
        (isNumberText_zeros _)).append hDigits
  next =>
    split
    next =>
      exact (hDigits.append (isNumberText_zeros _)).append hEnding
    next =>
      exact
        ((hDigits.of_subset (List.take_subset _ _)).append
          (by decide)).append
          (hDigits.of_subset (List.drop_subset _ _))

theorem isNumberText_scientific (d : Decimal) :
    IsNumberText d.scientific := by
  have hDigits := d.isNumberText_significant
  have hExponent (exponent : Int) :
      IsNumberText (exponentText exponent) := by
    unfold exponentText
    refine IsNumberText.append ?_ (isNumberText_decimalDigits _)
    split
    next => decide
    next => decide
  unfold scientific
  split
  next => decide
  next digit hOne =>
    rw [hOne] at hDigits
    exact hDigits.append (hExponent _)
  next digit rest _ hMore =>
    rw [hMore] at hDigits
    rw [List.append_assoc]
    refine IsNumberText.append ?_
      ((hDigits.of_subset (List.subset_cons_self _ _)).append
        (hExponent _))
    intro c hMem
    rcases List.mem_cons.mp hMem with rfl | hPoint
    · exact hDigits c List.mem_cons_self
    · exact Or.inr (by simp_all)

end Decimal

/- The literal of a finite float. -/
theorem Binary64.isNumberText_toLiteral
    {x : Binary64}
    (hFinite : x.IsFinite) :
    IsNumberText x.toLiteral.toList := by
  have hMinus : IsNumberText ['-'] := by decide
  have hBody
      {body : List Char}
      (hText : IsNumberText body) :
      IsNumberText (x.signed body).toList := by
    unfold signed
    rw [if_neg hFinite.not_isNaN, String.toList_ofList]
    split
    next => exact hMinus.append hText
    next => exact hText
  unfold toLiteral
  apply hBody
  rw [if_pos hFinite]
  split
  next => decide
  next =>
    dsimp only
    split
    next => exact Decimal.isNumberText_positional _ (by decide)
    next => exact Decimal.isNumberText_scientific _

/- A written integer. -/
theorem isNumberText_integer (n : Int) :
    IsNumberText (toString n).toList := by
  have hDigits (n : Nat) : IsNumberText n.repr.toList := by
    rw [Nat.toList_repr]
    exact Decimal.isNumberText_decimalDigits n
  cases n with
  | ofNat n => exact hDigits n
  | negSucc n =>
      change IsNumberText ("-" ++ (n + 1).repr).toList
      rw [String.toList_append]
      exact IsNumberText.append (by decide) (hDigits _)

------------------------------------------------------------
-- Nulls
------------------------------------------------------------

namespace Json

/- The word stands in the text. -/
def SaysNull (text : List Char) : Prop :=
  "null".toList <:+: text

instance (text : List Char) : Decidable (SaysNull text) := by
  unfold SaysNull
  infer_instance

/- A part of the value is shown by the word, or holds it in
   its text. -/
inductive HasNull : Json → Prop where
  | null : HasNull null
  | float {x : Binary64} (hInfinite : ¬ x.IsFinite) :
      HasNull (float x)
  | string {s : String} (hText : SaysNull (stringText s)) :
      HasNull (string s)
  | item
      {items : List Json}
      {value : Json}
      (hMem : value ∈ items)
      (hNull : HasNull value) :
      HasNull (array items)
  | name
      {members : List (String × Json)}
      {member : String × Json}
      (hMem : member ∈ members)
      (hText : SaysNull (stringText member.1)) :
      HasNull (object members)
  | member
      {members : List (String × Json)}
      {member : String × Json}
      (hMem : member ∈ members)
      (hNull : HasNull member.2) :
      HasNull (object members)

@[simp] theorem hasNull_null : HasNull null :=
  .null

@[simp] theorem not_hasNull_bool (value : Bool) :
    ¬ HasNull (bool value) := nofun

@[simp] theorem not_hasNull_integer (n : Int) :
    ¬ HasNull (integer n) := nofun

@[simp] theorem hasNull_float {x : Binary64} :
    HasNull (float x) ↔ ¬ x.IsFinite := by
  constructor
  · rintro ⟨⟩
    assumption
  · exact .float

@[simp] theorem hasNull_string {s : String} :
    HasNull (string s) ↔ SaysNull (stringText s) := by
  constructor
  · rintro ⟨⟩
    assumption
  · exact .string

@[simp] theorem hasNull_array {items : List Json} :
    HasNull (array items) ↔
      ∃ item ∈ items, item.HasNull := by
  constructor
  · intro hNull
    cases hNull with
    | item hMem hItem => exact ⟨_, hMem, hItem⟩
  · rintro ⟨item, hMem, hItem⟩
    exact .item hMem hItem

@[simp] theorem hasNull_object
    {members : List (String × Json)} :
    HasNull (object members) ↔
      ∃ member ∈ members,
        SaysNull (stringText member.1) ∨ member.2.HasNull := by
  constructor
  · intro hNull
    cases hNull with
    | name hMem hText => exact ⟨_, hMem, Or.inl hText⟩
    | member hMem hValue => exact ⟨_, hMem, Or.inr hValue⟩
  · rintro ⟨member, hMem, hText | hValue⟩
    · exact .name hMem hText
    · exact .member hMem hValue

------------------------------------------------------------
-- Parts of a Text
------------------------------------------------------------

@[simp] theorem not_saysNull_nil : ¬ SaysNull [] := by
  decide

/- A character that the word does not have keeps parts
   apart. -/
theorem saysNull_append_cons_iff
    {front back : List Char}
    {c : Char}
    (hChar : c ∉ "null".toList) :
    SaysNull (front ++ c :: back) ↔
      SaysNull front ∨ SaysNull back :=
  infix_append_cons_iff hChar

theorem saysNull_cons_iff
    {text : List Char}
    {c : Char}
    (hChar : c ∉ "null".toList) :
    SaysNull (c :: text) ↔ SaysNull text := by
  rw [← List.nil_append (c :: text),
    saysNull_append_cons_iff hChar]
  simp

theorem saysNull_append_singleton_iff
    {text : List Char}
    {c : Char}
    (hChar : c ∉ "null".toList) :
    SaysNull (text ++ [c]) ↔ SaysNull text := by
  rw [saysNull_append_cons_iff hChar]
  simp

/- A number does not say the word. -/
theorem not_saysNull_of_isNumberText
    {text : List Char}
    (hText : IsNumberText text) :
    ¬ SaysNull text := by
  intro hNull
  apply hText.letter_notMem (c := 'n') (by decide) (by decide)
  exact hNull.subset (by decide)

theorem saysNull_floatText_iff {x : Binary64} :
    SaysNull (floatText x) ↔ ¬ x.IsFinite := by
  unfold floatText
  split
  next hFinite =>
    exact
      iff_of_false
        (not_saysNull_of_isNumberText
          (Binary64.isNumberText_toLiteral hFinite))
        (not_not_intro hFinite)
  next hInfinite =>
    exact iff_of_true (List.infix_refl _) hInfinite

------------------------------------------------------------
-- Texts of Values
------------------------------------------------------------

variable {depth : Nat}

/- Items say the word if one of them does. -/
theorem saysNull_writeItems_iff
    {items : List Json}
    (hItems :
      ∀ item ∈ items,
        SaysNull (write .oneLine depth item) ↔
          item.HasNull) :
    SaysNull (writeItems .oneLine depth items) ↔
      ∃ item ∈ items, item.HasNull := by
  induction items with
  | nil =>
      simp [writeItems]
  | cons item items ih =>
      rcases List.forall_mem_cons.mp hItems with
        ⟨hItem, hRest⟩
      cases items with
      | nil => simp [writeItems, Layout.oneLine, ← hItem]
      | cons next items =>
          rw [List.exists_mem_cons_iff, ← hItem, ← ih hRest,
            writeItems, List.append_assoc]
          exact saysNull_append_cons_iff (by decide)

/- Members say the word if a name or a value does. -/
theorem saysNull_writeMembers_iff
    {members : List (String × Json)}
    (hMembers :
      ∀ member ∈ members,
        SaysNull (write .oneLine depth member.2) ↔
          member.2.HasNull) :
    SaysNull (writeMembers .oneLine depth members) ↔
      ∃ member ∈ members,
        SaysNull (stringText member.1) ∨
          member.2.HasNull := by
  induction members with
  | nil =>
      simp [writeMembers]
  | cons member members ih =>
      rcases List.forall_mem_cons.mp hMembers with
        ⟨hMember, hRest⟩
      rcases member with ⟨name, value⟩
      have hPair :
          SaysNull
              (stringText name ++
                ':' :: write .oneLine depth value) ↔
            SaysNull (stringText name) ∨ value.HasNull := by
        rw [saysNull_append_cons_iff (by decide), hMember]
      cases members with
      | nil =>
          rw [List.exists_mem_cons_iff, ← hPair]
          simp [writeMembers, Layout.oneLine]
      | cons next members =>
          rw [List.exists_mem_cons_iff, ← hPair, ← ih hRest,
            ← saysNull_append_cons_iff (c := ',') (by decide)]
          simp [writeMembers, Layout.oneLine]

/- The text in one line has the word just when a part of the
   value is a null or shows it. -/
theorem saysNull_write_iff
    (value : Json)
    (depth : Nat) :
    SaysNull (write .oneLine depth value) ↔
      value.HasNull := by
  match value with
  | null => exact iff_of_true (List.infix_refl _) hasNull_null
  | bool true =>
      exact
        iff_of_false (by rw [write]; decide)
          (not_hasNull_bool true)
  | bool false =>
      exact
        iff_of_false (by rw [write]; decide)
          (not_hasNull_bool false)
  | integer n =>
      exact
        iff_of_false
          (not_saysNull_of_isNumberText (isNumberText_integer n))
          (not_hasNull_integer n)
  | float x => rw [write, saysNull_floatText_iff, hasNull_float]
  | string s => rw [write, hasNull_string]
  | array [] =>
      exact iff_of_false (by rw [write]; decide) (by simp)
  | array (item :: items) =>
      have hItems :
          SaysNull
              (writeItems .oneLine (depth + 1)
                (item :: items)) ↔
            ∃ value ∈ item :: items, value.HasNull :=
        saysNull_writeItems_iff fun value hItem =>
          saysNull_write_iff value (depth + 1)
      rw [hasNull_array, ← hItems, write,
        saysNull_append_singleton_iff (by decide),
        Layout.oneLine, List.append_nil]
      exact saysNull_cons_iff (by decide)
  | object [] =>
      exact iff_of_false (by rw [write]; decide) (by simp)
  | object (member :: members) =>
      have hMembers :
          SaysNull
              (writeMembers .oneLine (depth + 1)
                (member :: members)) ↔
            ∃ other ∈ member :: members,
              SaysNull (stringText other.1) ∨
                other.2.HasNull :=
        saysNull_writeMembers_iff fun other hMember =>
          saysNull_write_iff other.2 (depth + 1)
      rw [hasNull_object, ← hMembers, write,
        saysNull_append_singleton_iff (by decide),
        Layout.oneLine, List.append_nil]
      exact saysNull_cons_iff (by decide)
termination_by value
decreasing_by
  · have hSize := List.sizeOf_lt_of_mem hItem
    simp only [array.sizeOf_spec]
    omega
  · have hSize := List.sizeOf_lt_of_mem hMember
    cases other
    simp only [Prod.mk.sizeOf_spec] at hSize
    simp only [object.sizeOf_spec]
    omega

end Json

end LatencySweep
