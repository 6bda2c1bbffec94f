import LatencySweep.Json.Printer
import LatencySweep.Proofs.Json.Grammar

/-
  Written values spell their drafts.

  What is written for a value spells its draft, in every
  layout that adds nothing but blanks, so this is what is
  read from it. The gap in front of a part belongs to this
  part, and the one in front of a closing bracket to the
  last part before it.

  Main declarations:
    * `Json.draft`
    * `Json.IsReadable`
    * `Json.Layout.IsBlank`
    * `Json.spells_write`
-/

namespace LatencySweep

------------------------------------------------------------
-- Drafts of Values
------------------------------------------------------------

namespace Json

mutual

/- The draft of a value whose text has no fault. -/
def draft : Json → Draft
  | null => .null
  | bool value => .bool value
  | integer n => .number (.ok (.integer n))
  | float x => .number (.ok (.float x))
  | string s => .string (.ofText s)
  | array items => .list (draftItems items)
  | object members => .object (draftMembers members)

/- The draft of the items of an array. -/
def draftItems : List Json → DraftItems
  | [] => .ended .closed
  | item :: rest => .item item.draft (draftItems rest)

/- The draft of the members of an object. -/
def draftMembers : List (String × Json) → DraftMembers
  | [] => .ended .closed
  | (name, value) :: rest =>
      .member (.ofText name) value.draft (draftMembers rest)

end

theorem draftItems_eq_ofList (items : List Json) :
    draftItems items = .ofList (items.map draft) := by
  induction items with
  | nil => rfl
  | cons item items ih => rw [draftItems, ih]; rfl

theorem draftMembers_eq_ofList
    (members : List (String × Json)) :
    draftMembers members =
      .ofList
        (members.map fun member =>
          (.ofText member.1, member.2.draft)) := by
  induction members with
  | nil => rfl
  | cons member members ih => rw [draftMembers, ih]; rfl

mutual

/- The value holds no floats, and integers of 64 bits. -/
def IsReadable : Json → Prop
  | null | bool _ | string _ => True
  | integer n => FitsWord n
  | float _ => False
  | array items => AreReadable items
  | object members => HasReadable members

/- All items are such. -/
def AreReadable : List Json → Prop
  | [] => True
  | item :: rest => item.IsReadable ∧ AreReadable rest

/- The values of all members are such. -/
def HasReadable : List (String × Json) → Prop
  | [] => True
  | (_, value) :: rest => value.IsReadable ∧ HasReadable rest

end

theorem areReadable_iff (items : List Json) :
    AreReadable items ↔ ∀ item ∈ items, item.IsReadable := by
  induction items with
  | nil => simp [AreReadable]
  | cons item items ih => simp [AreReadable, ih]

/- An array of encoded values. -/
theorem isReadable_array_map
    {α : Type}
    {encode : α → Json}
    {values : List α}
    (hValues : ∀ value ∈ values, (encode value).IsReadable) :
    (array (values.map encode)).IsReadable :=
  (areReadable_iff _).mpr (List.forall_mem_map.mpr hValues)

theorem hasReadable_iff (members : List (String × Json)) :
    HasReadable members ↔
      ∀ member ∈ members, member.2.IsReadable := by
  induction members with
  | nil => simp [HasReadable]
  | cons member members ih => simp [HasReadable, ih]

------------------------------------------------------------
-- Layouts
------------------------------------------------------------

/- The layout adds blanks only. -/
structure Layout.IsBlank (layout : Layout) : Prop where
  gap : ∀ depth, AreGaps (layout.gap depth)
  colon : ∃ blanks, layout.colon = ':' :: blanks ∧ AreGaps blanks

theorem Layout.isBlank_oneLine : Layout.oneLine.IsBlank where
  gap := fun _ => nofun
  colon := ⟨[], rfl, nofun⟩

theorem Layout.isBlank_indented : Layout.indented.IsBlank where
  gap := by
    intro depth c hChar
    rcases List.mem_cons.mp hChar with rfl | hBlank
    · rfl
    · rw [List.eq_of_mem_replicate hBlank]
      rfl
  colon := by
    refine ⟨[' '], rfl, ?_⟩
    intro c hChar
    rw [List.mem_singleton.mp hChar]
    rfl

------------------------------------------------------------
-- Spelling What Is Written
------------------------------------------------------------

variable {layout : Layout}
variable {depth : Nat}

/- Written items are spelled one by one, the last of them
   with the gap behind it. -/
theorem exists_spelled_items
    (hLayout : layout.IsBlank)
    {items : List Json}
    (hSome : items ≠ [])
    (hItems :
      ∀ item ∈ items,
        Draft.Spells (write layout depth item) item.draft)
    {gaps : List Char}
    (hGaps : AreGaps gaps) :
    ∃ spelled : List (List Char × Draft),
      spelled ≠ [] ∧
        (∀ item ∈ spelled, Draft.Spells item.1 item.2) ∧
        withCommas (spelled.map Prod.fst) =
          writeItems layout depth items ++ gaps ∧
        spelled.map Prod.snd = items.map draft := by
  induction items with
  | nil => exact absurd rfl hSome
  | cons item items ih =>
      rcases List.forall_mem_cons.mp hItems with
        ⟨hItem, hRest⟩
      have hFirst := hItem.gaps_append (hLayout.gap depth)
      cases items with
      | nil =>
          have hLast := hFirst.append_gaps hGaps
          refine
            ⟨[(_, item.draft)], List.cons_ne_nil _ _,
              List.forall_mem_singleton.mpr hLast, ?_, rfl⟩
          rw [List.map_singleton, withCommas_singleton,
            writeItems]
      | cons next items =>
          rcases ih (List.cons_ne_nil _ _) hRest with
            ⟨spelled, hMore, hSpelled, hText, hDrafts⟩
          refine
            ⟨(_, item.draft) :: spelled,
              List.cons_ne_nil _ _,
              List.forall_mem_cons.mpr ⟨hFirst, hSpelled⟩,
              ?_, ?_⟩
          · rw [List.map_cons,
              withCommas_cons (by simpa using hMore), hText,
              writeItems]
            simp only [List.append_assoc, List.cons_append,
              List.nil_append]
          · rw [List.map_cons, hDrafts]
            rfl

/- So are written members. -/
theorem exists_spelled_members
    (hLayout : layout.IsBlank)
    {members : List (String × Json)}
    (hSome : members ≠ [])
    (hMembers :
      ∀ member ∈ members,
        Draft.Spells (write layout depth member.2)
          member.2.draft)
    {gaps : List Char}
    (hGaps : AreGaps gaps) :
    ∃ spelled : List Draft.SpelledMember,
      spelled ≠ [] ∧
        (∀ member ∈ spelled,
          Draft.SpellsKey member.keyText member.key) ∧
        (∀ member ∈ spelled,
          Draft.Spells member.valueText member.value) ∧
        withCommas (spelled.map Draft.SpelledMember.text) =
          writeMembers layout depth members ++ gaps ∧
        spelled.map Draft.SpelledMember.entry =
          members.map fun member =>
            (.ofText member.1, member.2.draft) := by
  rcases hLayout.colon with ⟨blanks, hColon, hBlanks⟩
  induction members with
  | nil => exact absurd rfl hSome
  | cons member members ih =>
      rcases List.forall_mem_cons.mp hMembers with
        ⟨hMember, hRest⟩
      have hKey :
          Draft.SpellsKey
            (layout.gap depth ++ stringText member.1)
            (.ofText member.1) :=
        .quoted (hLayout.gap depth)
          (StringLiteral.spells_ofText member.1) nofun
      have hValue := hMember.gaps_append hBlanks
      cases members with
      | nil =>
          have hLast := hValue.append_gaps hGaps
          refine
            ⟨[⟨_, _, _, _⟩], List.cons_ne_nil _ _,
              List.forall_mem_singleton.mpr hKey,
              List.forall_mem_singleton.mpr hLast, ?_, rfl⟩
          rw [List.map_singleton, withCommas_singleton,
            writeMembers, Draft.SpelledMember.text, hColon]
          simp only [List.append_assoc, List.cons_append]
      | cons next members =>
          rcases ih (List.cons_ne_nil _ _) hRest with
            ⟨spelled, hMore, hKeys, hValues, hText, hDrafts⟩
          refine
            ⟨⟨_, _, _, _⟩ :: spelled,
              List.cons_ne_nil _ _,
              List.forall_mem_cons.mpr ⟨hKey, hKeys⟩,
              List.forall_mem_cons.mpr ⟨hValue, hValues⟩,
              ?_, ?_⟩
          · rw [List.map_cons,
              withCommas_cons (by simpa using hMore), hText,
              writeMembers, Draft.SpelledMember.text, hColon]
            simp only [List.append_assoc, List.cons_append,
              List.nil_append]
          · rw [List.map_cons, hDrafts]
            rfl

theorem spells_array
    (hLayout : layout.IsBlank)
    {items : List Json}
    (hItems :
      ∀ item ∈ items,
        Draft.Spells (write layout (depth + 1) item)
          item.draft) :
    Draft.Spells (write layout depth (array items))
      (array items).draft := by
  rw [draft, draftItems_eq_ofList]
  cases items with
  | nil => exact .emptyList areGaps_nil
  | cons item items =>
      rcases exists_spelled_items hLayout
          (List.cons_ne_nil item items) hItems
          (hLayout.gap depth) with
        ⟨spelled, hSome, hSpelled, hText, hDrafts⟩
      have hList := Draft.Spells.list hSome hSpelled
      rw [hText, hDrafts] at hList
      rw [write]
      exact hList

theorem spells_object
    (hLayout : layout.IsBlank)
    {members : List (String × Json)}
    (hMembers :
      ∀ member ∈ members,
        Draft.Spells (write layout (depth + 1) member.2)
          member.2.draft) :
    Draft.Spells (write layout depth (object members))
      (object members).draft := by
  rw [draft, draftMembers_eq_ofList]
  cases members with
  | nil => exact .emptyObject areGaps_nil
  | cons member members =>
      rcases exists_spelled_members hLayout
          (List.cons_ne_nil member members) hMembers
          (hLayout.gap depth) with
        ⟨spelled, hSome, hKeys, hValues, hText, hDrafts⟩
      have hObject :=
        Draft.Spells.object hSome hKeys hValues
      rw [hText, hDrafts] at hObject
      rw [write]
      exact hObject

/- Every readable value is written as a text that spells
   its draft. -/
theorem spells_write
    (hLayout : layout.IsBlank)
    (value : Json)
    (depth : Nat)
    (hReadable : value.IsReadable) :
    Draft.Spells (write layout depth value) value.draft := by
  match value with
  | null => exact .null
  | bool true => exact .true
  | bool false => exact .false
  | integer n =>
      have hNumber :=
        Draft.Spells.number (Numeral.spells_toString n)
      rw [Numeral.value_ofInteger hReadable] at hNumber
      rw [write]
      exact hNumber
  | float x => exact hReadable.elim
  | string s =>
      exact .string (StringLiteral.spells_ofText s)
  | array items =>
      have hItems := (areReadable_iff items).mp hReadable
      refine spells_array hLayout fun item hItem => ?_
      exact
        spells_write hLayout item _ (hItems item hItem)
  | object members =>
      have hMembers := (hasReadable_iff members).mp hReadable
      refine spells_object hLayout fun member hMember => ?_
      exact
        spells_write hLayout member.2 _
          (hMembers member hMember)
termination_by value
decreasing_by
  · have hSize := List.sizeOf_lt_of_mem hItem
    simp only [array.sizeOf_spec]
    omega
  · have hSize := List.sizeOf_lt_of_mem hMember
    cases member
    simp only [Prod.mk.sizeOf_spec] at hSize
    simp only [object.sizeOf_spec]
    omega

end Json

end LatencySweep
