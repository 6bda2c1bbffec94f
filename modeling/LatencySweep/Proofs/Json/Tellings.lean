import LatencySweep.Proofs.Json.Reading
import Mathlib.Data.List.Forall2
import Mathlib.Data.List.Perm.Basic

/-
  How drafts tell values.

  A record is told by an object that has its fields as
  members in any order, next to members of other names. A
  field may be left out when its value is the default. One
  object of a draft may have lost fields that have to be
  there.

  Main declarations:
    * `Telling`
    * `Telling.list`
    * `RecordEntry`
    * `Telling.record`
    * `Telling.record_draft`
-/

namespace LatencySweep

variable {α : Type}

------------------------------------------------------------
-- Tellings
------------------------------------------------------------

/-
  How drafts tell a value. The names are those of fields
  that one object of the draft has lost although they have
  to be there, in the order of their declaration.
-/
abbrev Telling :=
  Draft → List String → Prop

/- A draft can be skipped over when some text spells it. -/
def Draft.IsWellFormed (draft : Draft) : Prop :=
  ∃ text, Draft.Spells text draft

namespace Telling

/- A string with the text, however it is escaped. -/
def text (s : String) : Telling := fun draft lost =>
  lost = [] ∧
    ∃ literal : StringLiteral,
      literal.text = .ok s ∧ draft = .string literal

/- A boolean. -/
def bool (b : Bool) : Telling := fun draft lost =>
  lost = [] ∧ draft = .bool b

/- An integer, which has no fraction and no exponent. -/
def integer (n : Int) : Telling := fun draft lost =>
  lost = [] ∧ draft = .number (.ok (.integer n))

/- Items tell the values one by one. At most one of them
   has lost something. -/
inductive Items (item : α → Telling) :
    List α → List Draft → List String → Prop where
  | nil : Items item [] [] []
  | cons
      {value : α}
      {values : List α}
      {draft : Draft}
      {drafts : List Draft}
      {within behind : List String}
      (hFirst : item value draft within)
      (hRest : Items item values drafts behind)
      (hOnce : within = [] ∨ behind = []) :
      Items item (value :: values) (draft :: drafts)
        (within ++ behind)

/- A list of values. -/
def list
    (item : α → Telling)
    (values : List α) : Telling := fun draft lost =>
  ∃ drafts,
    Items item values drafts lost ∧
      draft = .list (.ofList drafts)

/- A list of two values. -/
def pair (first second : Telling) : Telling :=
  fun draft lost =>
    lost = [] ∧
      ∃ a b,
        first a [] ∧ second b [] ∧
          draft = .list (.ofList [a, b])

end Telling

------------------------------------------------------------
-- Tellings of Records
------------------------------------------------------------

/- A field of a record: its name, how its value is told,
   whether it has to be there, and whether its value is the
   one that is taken when it is not. -/
structure RecordEntry where
  name : String
  tells : Telling
  isRequired : Bool
  hasDefault : Prop

/- A field that has to be there. -/
def RecordEntry.required
    (name : String)
    (tells : Telling) : RecordEntry :=
  { name, tells, isRequired := true, hasDefault := False }

/- A field that may be left out with its default. -/
def RecordEntry.optional
    (name : String)
    (tells : Telling)
    (hasDefault : Prop) : RecordEntry :=
  { name, tells, isRequired := false, hasDefault }

/- A member whose key has a text. -/
structure NamedMember where
  key : StringLiteral
  name : String
  hName : key.text = .ok name
  value : Draft

/- What a member adds to an object. -/
def NamedMember.entry
    (member : NamedMember) : StringLiteral × Draft :=
  (member.key, member.value)

/- An object with the members. -/
def Draft.ofMembers (members : List NamedMember) : Draft :=
  .object (.ofList (members.map NamedMember.entry))

namespace Telling

/-
  The members are fields of a record in order. Some fields
  are left out with their defaults, and some are lost. At
  most one of the members has lost something within.
-/
inductive Fields :
    List RecordEntry → List NamedMember →
      List String → List String → Prop where
  | nil : Fields [] [] [] []
  | told
      {entry : RecordEntry}
      {entries : List RecordEntry}
      {member : NamedMember}
      {members : List NamedMember}
      {own within behind : List String}
      (hSame : member.name = entry.name)
      (hFirst : entry.tells member.value within)
      (hRest : Fields entries members own behind)
      (hOnce : within = [] ∨ behind = []) :
      Fields (entry :: entries) (member :: members) own
        (within ++ behind)
  | left
      {entry : RecordEntry}
      {entries : List RecordEntry}
      {members : List NamedMember}
      {own inner : List String}
      (hDefault : entry.hasDefault)
      (hRest : Fields entries members own inner) :
      Fields (entry :: entries) members own inner
  | lost
      {entry : RecordEntry}
      {entries : List RecordEntry}
      {members : List NamedMember}
      {own inner : List String}
      (hRequired : entry.isRequired = true)
      (hRest : Fields entries members own inner) :
      Fields (entry :: entries) members
        (entry.name :: own) inner

/- A member that is no field of the record. -/
structure IsExtra
    (entries : List RecordEntry)
    (member : NamedMember) : Prop where
  name : member.name ∉ entries.map RecordEntry.name
  value : member.value.IsWellFormed

/- A record is told by an object with its fields and other
   members, in any order. Either the object has lost
   something, or what stands within. -/
inductive record (entries : List RecordEntry) : Telling where
  | shuffled
      {fields extras members : List NamedMember}
      {own inner : List String}
      (hFields : Fields entries fields own inner)
      (hExtras : ∀ extra ∈ extras, IsExtra entries extra)
      (hOrder : members.Perm (fields ++ extras))
      (hOnce : own = [] ∨ inner = []) :
      record entries (.ofMembers members) (own ++ inner)

------------------------------------------------------------
-- Members of Records
------------------------------------------------------------

variable {entries : List RecordEntry}
variable {members : List NamedMember}
variable {own inner : List String}

/- A field that has lost nothing. -/
theorem Fields.whole
    {entry : RecordEntry}
    {member : NamedMember}
    (hSame : member.name = entry.name)
    (hFirst : entry.tells member.value [])
    (hRest : Fields entries members own inner) :
    Fields (entry :: entries) (member :: members) own
      inner :=
  .told hSame hFirst hRest (Or.inl rfl)

/- An object without other members. -/
theorem record_of_fields
    {fields : List NamedMember}
    (hFields : Fields entries fields own inner)
    (hOrder : members.Perm fields)
    (hOnce : own = [] ∨ inner = []) :
    record entries (.ofMembers members) (own ++ inner) := by
  have hNone : ∀ extra ∈ [], IsExtra entries extra := nofun
  rw [← List.append_nil fields] at hOrder
  exact .shuffled hFields hNone hOrder hOnce

/- The fields of an object are among those of the record,
   in their order. -/
theorem Fields.names_sublist
    (hFields : Fields entries members own inner) :
    (members.map NamedMember.name).Sublist
      (entries.map RecordEntry.name) := by
  induction hFields with
  | nil => exact .slnil
  | told hSame _ _ _ ih =>
      rw [List.map_cons, List.map_cons, hSame]
      exact ih.cons_cons _
  | left _ _ ih => exact ih.cons _
  | lost _ _ ih => exact ih.cons _

/- A name that the record does not have is not given. -/
theorem Fields.name_notMem
    {name : String}
    (hFields : Fields entries members own inner)
    (hNew : name ∉ entries.map RecordEntry.name) :
    name ∉ members.map NamedMember.name := by
  intro hMember
  exact hNew (hFields.names_sublist.subset hMember)

/- A member that tells one of the entries. -/
def IsField
    (entries : List RecordEntry)
    (lost : List String)
    (member : NamedMember) : Prop :=
  ∃ entry ∈ entries,
    member.name = entry.name ∧ entry.tells member.value lost

theorem IsField.cons
    {lost : List String}
    {member : NamedMember}
    (hField : IsField entries lost member)
    (entry : RecordEntry) :
    IsField (entry :: entries) lost member := by
  rcases hField with ⟨found, hFound, hTells⟩
  exact ⟨found, List.mem_cons_of_mem entry hFound, hTells⟩

/- Each member tells an entry. -/
theorem Fields.isField
    (hFields : Fields entries members own inner) :
    ∀ member ∈ members,
      IsField entries [] member ∨
        IsField entries inner member := by
  induction hFields with
  | nil => exact nofun
  | @told entry entries member members own within behind hSame
      hFirst _ hOnce ih =>
      have hField : IsField (entry :: entries) within member :=
        ⟨entry, List.mem_cons_self, hSame, hFirst⟩
      intro other hOther
      rcases hOnce with rfl | rfl
      · rw [List.nil_append]
        rcases List.mem_cons.mp hOther with rfl | hOther
        · exact Or.inl hField
        · exact
            (ih other hOther).imp (·.cons entry)
              (·.cons entry)
      · rw [List.append_nil]
        rcases List.mem_cons.mp hOther with rfl | hOther
        · exact Or.inr hField
        · have hWhole := (ih other hOther).elim id id
          exact Or.inl (hWhole.cons entry)
  | @left entry _ _ _ _ _ _ ih =>
      exact fun other hOther =>
        (ih other hOther).imp (·.cons entry) (·.cons entry)
  | @lost entry _ _ _ _ _ _ ih =>
      exact fun other hOther =>
        (ih other hOther).imp (·.cons entry) (·.cons entry)

/- What is lost within is lost in one of the members. -/
theorem Fields.exists_isField
    (hFields : Fields entries members own inner)
    (hLost : inner ≠ []) :
    ∃ member ∈ members, IsField entries inner member := by
  induction hFields with
  | nil => exact absurd rfl hLost
  | @told entry entries member members own within behind hSame
      hFirst _ hOnce ih =>
      rcases hOnce with rfl | rfl
      · rcases ih hLost with ⟨other, hOther, hField⟩
        exact
          ⟨other, List.mem_cons_of_mem member hOther,
            hField.cons entry⟩
      · rw [List.append_nil]
        exact
          ⟨member, List.mem_cons_self, entry,
            List.mem_cons_self, hSame, hFirst⟩
  | @left entry _ _ _ _ _ _ ih =>
      rcases ih hLost with ⟨other, hOther, hField⟩
      exact ⟨other, hOther, hField.cons entry⟩
  | @lost entry _ _ _ _ _ _ ih =>
      rcases ih hLost with ⟨other, hOther, hField⟩
      exact ⟨other, hOther, hField.cons entry⟩

------------------------------------------------------------
-- Drafts of What Is Written
------------------------------------------------------------

theorem text_draft (s : String) :
    text s (Json.string s).draft [] :=
  ⟨rfl, .ofText s, StringLiteral.text_ofText s, rfl⟩

theorem list_draft
    {tells : α → Telling}
    {encode : α → Json}
    {values : List α}
    (hValues :
      ∀ value ∈ values, tells value (encode value).draft []) :
    list tells values (Json.array (values.map encode)).draft
      [] := by
  refine ⟨(values.map encode).map Json.draft, ?_, ?_⟩
  · induction values with
    | nil => exact .nil
    | cons value values ih =>
        rcases List.forall_mem_cons.mp hValues with
          ⟨hFirst, hRest⟩
        exact .cons hFirst (ih hRest) (Or.inl rfl)
  · rw [Json.draft, Json.draftItems_eq_ofList]

end Telling

/- A member whose key is written as usual. -/
def NamedMember.ofText
    (name : String)
    (value : Draft) : NamedMember where
  key := .ofText name
  name := name
  hName := StringLiteral.text_ofText name
  value := value

/- A member as it is written. -/
def NamedMember.ofJson
    (member : String × Json) : NamedMember :=
  .ofText member.1 member.2.draft

/- A record is told by what is written of all its fields. -/
theorem Telling.record_draft
    {entries : List RecordEntry}
    {members : List (String × Json)}
    (hMembers :
      List.Forall₂
        (fun entry member =>
          member.1 = entry.name ∧
            entry.tells member.2.draft [])
        entries members) :
    record entries (Json.object members).draft [] := by
  have hFields :
      Fields entries (members.map NamedMember.ofJson) [] [] := by
    induction hMembers with
    | nil => exact .nil
    | cons hFirst _ ih =>
        exact .whole hFirst.1 hFirst.2 ih
  have hObject :=
    record_of_fields hFields (.refl _) (Or.inl rfl)
  rw [Draft.ofMembers, List.map_map] at hObject
  rw [Json.draft, Json.draftMembers_eq_ofList]
  exact hObject

end LatencySweep
