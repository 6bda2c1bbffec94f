import LatencySweep.Json.Fields
import LatencySweep.Proofs.Json.Tellings
import Mathlib.Data.List.Nodup

/-
  Decoders read values off the drafts that tell them.

  A decoder comes to the value if nothing is lost. If one
  object of the draft has lost fields that have to be there,
  then the first of them is what the decoder complains
  about, wherever the object stands. Lists, pairs and
  records are read when their parts are, one level further
  down.

  Main declarations:
    * `outcome`
    * `Decoder.Reads`
    * `Decoder.Reads.list`
    * `Decoder.Reads.pair`
    * `RecordShape.Matches`
    * `Decoder.Reads.record`
    * `Decoder.Reads.decodeText_eq`
-/

namespace LatencySweep

variable {α β : Type}
variable {depth : Nat}

------------------------------------------------------------
-- Reading Scalars
------------------------------------------------------------

/- What is made of a draft that tells the value. -/
def outcome
    (lost : List String)
    (value : α) : Except DecodeError α :=
  match lost with
  | [] => .ok value
  | name :: _ => .error (.mismatch (.missingField name))

@[simp] theorem outcome_nil (value : α) :
    outcome [] value = .ok value :=
  rfl

namespace Decoder

/- The decoder reads the value off whatever tells it,
   provided that there is room for some levels. -/
def Reads
    (decoder : Decoder α)
    (depth : Nat)
    (tells : Telling)
    (value : α) : Prop :=
  ∀ draft lost, tells draft lost →
    ∀ room, depth ≤ room →
      decoder room draft = outcome lost value

theorem literalText_eq
    {literal : StringLiteral}
    {s : String}
    (hText : literal.text = .ok s) :
    literalText literal = .ok s := by
  rw [literalText, hText]
  rfl

theorem text_reads
    (depth : Nat)
    (expected s : String) :
    (text expected).Reads depth (.text s) s := by
  rintro _ _ ⟨rfl, literal, hText, rfl⟩ room _
  exact literalText_eq hText

theorem string_reads
    (depth : Nat)
    (s : String) :
    string.Reads depth (.text s) s :=
  text_reads depth "a string" s

theorem bool_reads
    (depth : Nat)
    (b : Bool) :
    bool.Reads depth (.bool b) b := by
  rintro _ _ ⟨rfl, rfl⟩ room _
  rfl

theorem natural_reads (depth n : Nat) :
    natural.Reads depth (.integer n) n := by
  rintro _ _ ⟨rfl, rfl⟩ room _
  have hSign : ¬(n : Int) < 0 := by omega
  simp only [natural, if_neg hSign, Int.toNat_natCast]
  rfl

theorem choice_reads
    (depth : Nat)
    {known : List String}
    {name : String}
    (hKnown : name ∈ known) :
    (choice known).Reads depth (.text name) name := by
  rintro _ _ ⟨rfl, literal, hText, rfl⟩ room _
  simp only [choice, variant, literalText_eq hText,
    if_pos hKnown]
  rfl

------------------------------------------------------------
-- Reading Lists and Pairs
------------------------------------------------------------

theorem items_ofList
    {item : Decoder α}
    {tells : α → Telling}
    {values : List α}
    {drafts : List Draft}
    {lost : List String}
    {room : Nat}
    (hItems : Telling.Items tells values drafts lost)
    (hReads :
      ∀ value ∈ values, item.Reads depth (tells value) value)
    (hRoom : depth ≤ room) :
    items item room (.ofList drafts) =
      outcome lost values := by
  induction hItems with
  | nil => rfl
  | @cons value values draft drafts within behind hFirst _
      hOnce ih =>
      rcases List.forall_mem_cons.mp hReads with
        ⟨hRead, hReads⟩
      rw [DraftItems.ofList, items,
        hRead _ _ hFirst room hRoom, ih hReads]
      rcases hOnce with rfl | rfl
      · cases behind <;> rfl
      · cases within <;> rfl

/- A list is read item by item. -/
theorem Reads.list
    {item : Decoder α}
    {tells : α → Telling}
    {values : List α}
    (hReads :
      ∀ value ∈ values, item.Reads depth (tells value) value) :
    (Decoder.list item).Reads (depth + 1)
      (.list tells values) values := by
  rintro _ lost ⟨drafts, hItems, rfl⟩ room hRoom
  have hSome : room ≠ 0 := by omega
  simp only [Decoder.list, if_neg hSome]
  exact items_ofList hItems hReads (by omega)

/- A pair is read off a list of two items. -/
theorem Reads.pair
    {first : Decoder α}
    {second : Decoder β}
    {tells tells' : Telling}
    {a : α}
    {b : β}
    (hFirst : first.Reads depth tells a)
    (hSecond : second.Reads depth tells' b) :
    (Decoder.pair first second).Reads (depth + 1)
      (.pair tells tells') (a, b) := by
  rintro _ _ ⟨rfl, x, y, hX, hY, rfl⟩ room hRoom
  have hSome : room ≠ 0 := by omega
  have hFirst := hFirst x [] hX (room - 1) (by omega)
  have hSecond := hSecond y [] hY (room - 1) (by omega)
  simp only [Decoder.pair, DraftItems.ofList, if_neg hSome,
    pairItem, hFirst, hSecond, outcome_nil]
  rfl

end Decoder

------------------------------------------------------------
-- Reading Members
------------------------------------------------------------

/- What a member adds to the checked fields. -/
def NamedMember.checked
    (member : NamedMember) : String × Draft :=
  (member.name, member.value)

/- No field comes twice. -/
structure RecordShape.Unrepeated
    (shape : RecordShape)
    (seen : List String)
    (members : List NamedMember) : Prop where
  unseen :
    ∀ member ∈ members,
      (shape.field? member.name).isSome →
        member.name ∉ seen
  apart :
    members.Pairwise fun a b =>
      (shape.field? a.name).isSome → a.name ≠ b.name

variable {shape : RecordShape}
variable {room : Nat}
variable {seen : List String}
variable {member : NamedMember}
variable {members : List NamedMember}

/- What comes behind a member does not repeat it. -/
theorem RecordShape.Unrepeated.tail
    (hNew : shape.Unrepeated seen (member :: members)) :
    shape.Unrepeated (member.name :: seen) members := by
  rcases List.pairwise_cons.mp hNew.apart with
    ⟨hFirst, hApart⟩
  refine ⟨?_, hApart⟩
  intro other hOther hKnown hSeen
  rcases List.mem_cons.mp hSeen with hSame | hSeen
  · rw [hSame] at hKnown
    exact hFirst other hOther hKnown hSame.symm
  · exact
      hNew.unseen other (List.mem_cons_of_mem member hOther)
        hKnown hSeen

namespace Decoder

theorem newName_eq
    (hNew : shape.Unrepeated seen (member :: members)) :
    newName shape seen member.key = .ok member.name := by
  have hUnseen := hNew.unseen member List.mem_cons_self
  simp only [newName, literalText_eq member.hName]
  rw [if_neg fun hBoth => hUnseen hBoth.1 hBoth.2]

/- Members that pass their checks are kept. -/
theorem members_eq_ok
    (hNew : shape.Unrepeated seen members)
    (hChecked :
      ∀ member ∈ members,
        checkMember shape room member.name member.value =
          .ok ()) :
    Decoder.members shape room seen
        (.ofList (members.map NamedMember.entry)) =
      .ok (members.map NamedMember.checked) := by
  induction members generalizing seen with
  | nil => rfl
  | cons member members ih =>
      rcases List.forall_mem_cons.mp hChecked with
        ⟨hFirst, hRest⟩
      rw [List.map_cons, NamedMember.entry,
        DraftMembers.ofList, Decoder.members]
      simp only [newName_eq hNew, hFirst,
        ih hNew.tail hRest]
      rfl

/- A failed check decides the error when no other check
   has another one. -/
theorem members_eq_error
    {e : DecodeError}
    (hNew : shape.Unrepeated seen members)
    (hChecked :
      ∀ member ∈ members,
        checkMember shape room member.name member.value =
            .ok () ∨
          checkMember shape room member.name member.value =
            .error e)
    (hFails :
      ∃ member ∈ members,
        checkMember shape room member.name member.value =
          .error e) :
    Decoder.members shape room seen
        (.ofList (members.map NamedMember.entry)) =
      .error e := by
  induction members generalizing seen with
  | nil =>
      rcases hFails with ⟨member, hMember, _⟩
      cases hMember
  | cons member members ih =>
      rcases List.forall_mem_cons.mp hChecked with
        ⟨hFirst, hRest⟩
      rw [List.map_cons, NamedMember.entry,
        DraftMembers.ofList, Decoder.members]
      simp only [newName_eq hNew]
      rcases hFirst with hFirst | hFirst
      · have hLater :
            ∃ member ∈ members,
              checkMember shape room member.name
                  member.value =
                .error e := by
          rcases hFails with ⟨other, hOther, hError⟩
          rcases List.mem_cons.mp hOther with rfl | hOther
          · rw [hFirst] at hError
            cases hError
          · exact ⟨other, hOther, hError⟩
        simp only [hFirst, ih hNew.tail hRest hLater]
      · simp only [hFirst]

end Decoder

------------------------------------------------------------
-- Fields and Entries
------------------------------------------------------------

/- The field checks what tells the entry. -/
structure Field.Matches
    (field : Field)
    (depth : Nat)
    (entry : RecordEntry) : Prop where
  name : field.name = entry.name
  check :
    ∀ draft lost, entry.tells draft lost →
      ∀ room, depth ≤ room →
        field.check room draft = outcome lost ()

/- A field checks what its decoder reads. -/
theorem Decoder.Reads.matches
    {decoder : Decoder α}
    {field : Field}
    {entry : RecordEntry}
    {value : α}
    (hReads : decoder.Reads depth entry.tells value)
    (hField : field.check = decoder.check)
    (hName : field.name = entry.name) :
    field.Matches depth entry where
  name := hName
  check := by
    intro draft lost hTells room hRoom
    rw [hField, Decoder.check,
      hReads draft lost hTells room hRoom]
    cases lost <;> rfl

/- The fields of the shape match the entries in order. -/
structure RecordShape.Matches
    (shape : RecordShape)
    (depth : Nat)
    (entries : List RecordEntry) : Prop where
  distinct : (entries.map RecordEntry.name).Nodup
  fields :
    List.Forall₂ (fun field entry => field.Matches depth entry)
      shape.fields entries

namespace RecordShape.Matches

variable {entries : List RecordEntry}
variable {own inner : List String}

/- The field of an entry's name is the one that matches
   it. -/
theorem exists_field?
    (hShape : shape.Matches depth entries)
    {entry : RecordEntry}
    (hEntry : entry ∈ entries) :
    ∃ field,
      shape.field? entry.name = some field ∧
        field.Matches depth entry := by
  rcases hShape with ⟨hDistinct, hFields⟩
  unfold RecordShape.field?
  generalize shape.fields = known at hFields
  induction hFields with
  | nil => cases hEntry
  | @cons field first fields entries hFirst _ ih =>
      rcases List.nodup_cons.mp hDistinct with
        ⟨hNew, hDistinct⟩
      rcases List.mem_cons.mp hEntry with rfl | hEntry
      · exact
          ⟨field,
            List.find?_cons_of_pos (by simp [hFirst.name]),
            hFirst⟩
      · have hOther : field.name ≠ entry.name := by
          rw [hFirst.name]
          intro hSame
          exact hNew (hSame ▸ List.mem_map_of_mem hEntry)
        rw [List.find?_cons_of_neg (by simp [hOther])]
        exact ih hEntry hDistinct

/- No other name has a field. -/
theorem field?_eq_none
    (hShape : shape.Matches depth entries)
    {name : String}
    (hName : name ∉ entries.map RecordEntry.name) :
    shape.field? name = none := by
  have hFields := hShape.fields
  unfold RecordShape.field?
  generalize shape.fields = known at hFields
  clear hShape
  induction hFields with
  | nil => rfl
  | @cons field first fields entries hFirst _ ih =>
      rw [List.map_cons, List.mem_cons, not_or] at hName
      have hOther : field.name ≠ name := by
        rw [hFirst.name]
        exact Ne.symm hName.1
      rw [List.find?_cons_of_neg (by simp [hOther])]
      exact ih hName.2

/- Other members are skipped. -/
theorem checkMember_extra
    (hShape : shape.Matches depth entries)
    (hExtra : Telling.IsExtra entries member)
    (room : Nat) :
    Decoder.checkMember shape room member.name
        member.value =
      .ok () := by
  rcases hExtra.value with ⟨text, hText⟩
  simp only [Decoder.checkMember,
    hShape.field?_eq_none hExtra.name,
    hText.skipFault?_eq_none]
  rfl

/- Members that tell an entry are checked as its field. -/
theorem checkMember_field
    (hShape : shape.Matches depth entries)
    {lost : List String}
    (hMember : Telling.IsField entries lost member)
    (hRoom : depth ≤ room) :
    Decoder.checkMember shape room member.name
        member.value =
      outcome lost () := by
  rcases hMember with ⟨entry, hEntry, hName, hTells⟩
  rcases hShape.exists_field? hEntry with
    ⟨field, hField, hMatches⟩
  simp only [Decoder.checkMember, hName, hField]
  exact hMatches.check _ _ hTells room hRoom

variable {fields extras : List NamedMember}

/- The fields of an object come once, whatever the order
   of its members. -/
theorem unrepeated
    (hShape : shape.Matches depth entries)
    (hFields : Telling.Fields entries fields own inner)
    (hExtras :
      ∀ extra ∈ extras, Telling.IsExtra entries extra)
    (hOrder : members.Perm (fields ++ extras)) :
    shape.Unrepeated [] members where
  unseen := fun _ _ _ => List.not_mem_nil
  apart := by
    have hSymm
        {a b : NamedMember}
        (hApart :
          (shape.field? a.name).isSome → a.name ≠ b.name)
        (hKnown : (shape.field? b.name).isSome) :
        b.name ≠ a.name := by
      intro hSame
      rw [hSame] at hKnown
      exact hApart hKnown hSame.symm
    rw [hOrder.pairwise_iff hSymm, List.pairwise_append]
    refine ⟨?_, ?_, ?_⟩
    · have hNames :=
        hFields.names_sublist.nodup hShape.distinct
      refine (List.pairwise_map.mp hNames).imp ?_
      intro a b hOther _
      exact hOther
    · refine List.pairwise_of_forall_mem_list ?_
      intro a hA b _ hKnown
      rw [hShape.field?_eq_none (hExtras a hA).name]
        at hKnown
      cases hKnown
    · intro a hA b hB _ hSame
      refine (hExtras b hB).name ?_
      rw [← hSame]
      exact
        hFields.names_sublist.subset (List.mem_map_of_mem hA)

end RecordShape.Matches

------------------------------------------------------------
-- Checked Fields
------------------------------------------------------------

/- The checked drafts tell the entries, up to those whose
   default is left out and those that are lost. -/
inductive FieldDrafts.Tell (drafts : FieldDrafts) :
    List RecordEntry → List String → Prop where
  | nil : drafts.Tell [] []
  | told
      {entry : RecordEntry}
      {entries : List RecordEntry}
      {lost : List String}
      {draft : Draft}
      (hGiven : drafts.values.lookup entry.name = some draft)
      (hFirst : entry.tells draft [])
      (hRest : drafts.Tell entries lost) :
      drafts.Tell (entry :: entries) lost
  | left
      {entry : RecordEntry}
      {entries : List RecordEntry}
      {lost : List String}
      (hNone : drafts.values.lookup entry.name = none)
      (hDefault : entry.hasDefault)
      (hRest : drafts.Tell entries lost) :
      drafts.Tell (entry :: entries) lost
  | lost
      {entry : RecordEntry}
      {entries : List RecordEntry}
      {lost : List String}
      (hNone : drafts.values.lookup entry.name = none)
      (hRequired : entry.isRequired = true)
      (hRest : drafts.Tell entries lost) :
      drafts.Tell (entry :: entries) (entry.name :: lost)

namespace FieldDrafts

variable {γ : Type}
variable {drafts : FieldDrafts}
variable {entries : List RecordEntry}
variable {name : String}
variable {tells : Telling}
variable {lost : List String}
variable {decoder : Decoder α}
variable {value : α}
variable {result : γ}
variable {next : α → Except DecodeError γ}

/- The value of a field that has to be there is taken
   first. -/
theorem Tell.required_bind
    (hTell : drafts.Tell (.required name tells :: entries) lost)
    (hReads : decoder.Reads depth tells value)
    (hRoom : depth ≤ drafts.room)
    (hNext :
      ∀ lost, drafts.Tell entries lost →
        next value = outcome lost result) :
    (drafts.required name decoder >>= next) =
      outcome lost result := by
  cases hTell with
  | told hGiven hFirst hRest =>
      have hValue := hReads _ _ hFirst drafts.room hRoom
      change drafts.values.lookup name = _ at hGiven
      have hTaken :
          drafts.required name decoder = .ok value := by
        rw [required, hGiven]
        exact hValue
      rw [hTaken]
      exact hNext lost hRest
  | left _ hDefault _ => exact hDefault.elim
  | lost hNone _ _ =>
      change drafts.values.lookup name = _ at hNone
      rw [required, hNone]
      rfl

/- The value of a field that has a default. -/
theorem Tell.optional_bind
    {hasDefault : Prop}
    {default : α}
    (hTell :
      drafts.Tell (.optional name tells hasDefault :: entries)
        lost)
    (hDefault : hasDefault → value = default)
    (hReads : decoder.Reads depth tells value)
    (hRoom : depth ≤ drafts.room)
    (hNext :
      ∀ lost, drafts.Tell entries lost →
        next value = outcome lost result) :
    (drafts.optional name default decoder >>= next) =
      outcome lost result := by
  cases hTell with
  | told hGiven hFirst hRest =>
      have hValue := hReads _ _ hFirst drafts.room hRoom
      change drafts.values.lookup name = _ at hGiven
      have hTaken :
          drafts.optional name default decoder = .ok value := by
        rw [optional, hGiven]
        exact hValue
      rw [hTaken]
      exact hNext lost hRest
  | left hNone hLeft hRest =>
      change drafts.values.lookup name = _ at hNone
      rw [optional, hNone, ← hDefault hLeft]
      exact hNext lost hRest
  | lost _ hRequired _ => cases hRequired

/- Nothing is left to take. -/
theorem Tell.pure_eq
    (hTell : drafts.Tell [] lost)
    (result : γ) :
    (pure result : Except DecodeError γ) =
      outcome lost result := by
  cases hTell
  rfl

end FieldDrafts

/- The member with a name of its own is looked up. -/
theorem lookup_checked
    (hMember : member ∈ members)
    (hOnly :
      ∀ other ∈ members,
        other.name = member.name → other = member) :
    (members.map NamedMember.checked).lookup member.name =
      some member.value := by
  induction members with
  | nil => cases hMember
  | cons first members ih =>
      rcases List.forall_mem_cons.mp hOnly with
        ⟨hFirst, hRest⟩
      rw [List.map_cons, NamedMember.checked,
        List.lookup_cons]
      by_cases hSame : first.name = member.name
      · rw [hFirst hSame, beq_self_eq_true]
      · have hOther : member ∈ members := by
          rcases List.mem_cons.mp hMember with rfl | hMember
          · exact absurd rfl hSame
          · exact hMember
        rw [beq_false_of_ne (Ne.symm hSame)]
        exact ih hOther hRest

theorem lookup_checked_eq_none
    {name : String}
    (hNone : ∀ other ∈ members, other.name ≠ name) :
    (members.map NamedMember.checked).lookup name = none := by
  induction members with
  | nil => rfl
  | cons first members ih =>
      rcases List.forall_mem_cons.mp hNone with
        ⟨hFirst, hRest⟩
      rw [List.map_cons, NamedMember.checked,
        List.lookup_cons, beq_false_of_ne (Ne.symm hFirst)]
      exact ih hRest

/- Members that can be looked up tell the entries. -/
theorem Telling.Fields.tell
    {entries : List RecordEntry}
    {own inner : List String}
    {drafts : FieldDrafts}
    (hFields : Fields entries members own inner)
    (hWhole : inner = [])
    (hDistinct : (entries.map RecordEntry.name).Nodup)
    (hGiven :
      ∀ member ∈ members,
        drafts.values.lookup member.name =
          some member.value)
    (hNone :
      ∀ entry ∈ entries,
        entry.name ∉ members.map NamedMember.name →
          drafts.values.lookup entry.name = none) :
    drafts.Tell entries own := by
  induction hFields with
  | nil => exact .nil
  | @told entry entries member members own within behind hSame
      hTells hRest _ ih =>
      rcases List.append_eq_nil_iff.mp hWhole with ⟨rfl, rfl⟩
      rcases List.nodup_cons.mp hDistinct with
        ⟨hNew, hDistinct⟩
      rcases List.forall_mem_cons.mp hGiven with
        ⟨hMember, hGiven⟩
      rw [hSame] at hMember
      refine
        .told hMember hTells (ih rfl hDistinct hGiven ?_)
      intro other hOther hName
      refine hNone other (List.mem_cons_of_mem _ hOther) ?_
      rw [List.map_cons, hSame, List.mem_cons, not_or]
      refine ⟨?_, hName⟩
      intro hTwice
      exact hNew (hTwice ▸ List.mem_map_of_mem hOther)
  | left hDefault hRest ih =>
      rcases List.nodup_cons.mp hDistinct with
        ⟨hNew, hDistinct⟩
      rcases List.forall_mem_cons.mp hNone with
        ⟨hHere, hLater⟩
      exact
        .left (hHere (hRest.name_notMem hNew)) hDefault
          (ih hWhole hDistinct hGiven hLater)
  | lost hRequired hRest ih =>
      rcases List.nodup_cons.mp hDistinct with
        ⟨hNew, hDistinct⟩
      rcases List.forall_mem_cons.mp hNone with
        ⟨hHere, hLater⟩
      exact
        .lost (hHere (hRest.name_notMem hNew)) hRequired
          (ih hWhole hDistinct hGiven hLater)

------------------------------------------------------------
-- Reading Records
------------------------------------------------------------

namespace RecordShape.Matches

variable {entries : List RecordEntry}
variable {own inner : List String}
variable {fields extras : List NamedMember}

/- If nothing is lost within, every member is checked. -/
theorem exists_members_eq
    (hShape : shape.Matches depth entries)
    (hFields : Telling.Fields entries fields own [])
    (hExtras :
      ∀ extra ∈ extras, Telling.IsExtra entries extra)
    (hOrder : members.Perm (fields ++ extras))
    (hRoom : depth ≤ room) :
    ∃ values,
      Decoder.members shape room []
          (.ofList (members.map NamedMember.entry)) =
        .ok values ∧
      FieldDrafts.Tell { room, values } entries own := by
  have hNew := hShape.unrepeated hFields hExtras hOrder
  have hSplit {other : NamedMember} :
      other ∈ members ↔ other ∈ fields ∨ other ∈ extras :=
    hOrder.mem_iff.trans List.mem_append
  have hNames := hFields.names_sublist
  have hChecked :
      ∀ member ∈ members,
        Decoder.checkMember shape room member.name
            member.value =
          .ok () := by
    intro member hMember
    rcases hSplit.mp hMember with hMember | hMember
    · have hField := (hFields.isField member hMember).elim id id
      exact hShape.checkMember_field hField hRoom
    · exact
        hShape.checkMember_extra (hExtras member hMember) room
  refine ⟨_, Decoder.members_eq_ok hNew hChecked, ?_⟩
  apply hFields.tell rfl hShape.distinct
  · intro member hMember
    apply lookup_checked (hSplit.mpr (Or.inl hMember))
    intro other hOther hSame
    rcases hSplit.mp hOther with hOther | hOther
    · exact
        List.inj_on_of_nodup_map
          (hNames.nodup hShape.distinct) hOther hMember hSame
    · refine absurd ?_ (hExtras other hOther).name
      rw [hSame]
      exact hNames.subset (List.mem_map_of_mem hMember)
  · intro entry hEntry hName
    apply lookup_checked_eq_none
    intro other hOther hSame
    rcases hSplit.mp hOther with hOther | hOther
    · exact hName (hSame ▸ List.mem_map_of_mem hOther)
    · refine (hExtras other hOther).name ?_
      rw [hSame]
      exact List.mem_map_of_mem hEntry

/- If something is lost within, the check of a member
   fails. -/
theorem members_eq_error
    (hShape : shape.Matches depth entries)
    {name : String}
    (hFields :
      Telling.Fields entries fields own (name :: inner))
    (hExtras :
      ∀ extra ∈ extras, Telling.IsExtra entries extra)
    (hOrder : members.Perm (fields ++ extras))
    (hRoom : depth ≤ room) :
    Decoder.members shape room []
        (.ofList (members.map NamedMember.entry)) =
      .error (.mismatch (.missingField name)) := by
  have hNew := hShape.unrepeated hFields hExtras hOrder
  have hSplit {other : NamedMember} :
      other ∈ members ↔ other ∈ fields ∨ other ∈ extras :=
    hOrder.mem_iff.trans List.mem_append
  apply Decoder.members_eq_error hNew
  · intro member hMember
    rcases hSplit.mp hMember with hMember | hMember
    · exact
        (hFields.isField member hMember).imp
          (hShape.checkMember_field · hRoom)
          (hShape.checkMember_field · hRoom)
    · exact
        Or.inl <|
          hShape.checkMember_extra (hExtras member hMember)
            room
  · rcases hFields.exists_isField (List.cons_ne_nil _ _) with
      ⟨member, hMember, hField⟩
    exact
      ⟨member, hSplit.mpr (Or.inl hMember),
        hShape.checkMember_field hField hRoom⟩

end RecordShape.Matches

/- A record is read when its fields are. -/
theorem Decoder.Reads.record
    {entries : List RecordEntry}
    {build : FieldDrafts → Except DecodeError α}
    {value : α}
    (hShape : shape.Matches depth entries)
    (hBuild :
      ∀ (drafts : FieldDrafts) (lost : List String),
        depth ≤ drafts.room → drafts.Tell entries lost →
          build drafts = outcome lost value) :
    Reads
      (fun room draft =>
        Decoder.fields shape room draft >>= build)
      (depth + 1) (.record entries) value := by
  rintro _ _ ⟨hFields, hExtras, hOrder, hOnce⟩ room hRoom
  rename_i fields extras members own inner
  have hSome : room ≠ 0 := by omega
  have hInner : depth ≤ room - 1 :=
    Nat.le_sub_one_of_lt hRoom
  simp only [Decoder.fields, Draft.ofMembers, if_neg hSome]
  cases inner with
  | nil =>
      rcases hShape.exists_members_eq hFields hExtras hOrder
          hInner with
        ⟨values, hMembers, hTell⟩
      rw [hMembers, List.append_nil]
      exact hBuild _ _ hInner hTell
  | cons name inner =>
      have hOwn := hOnce.resolve_right (List.cons_ne_nil _ _)
      rw [hShape.members_eq_error hFields hExtras hOrder
        hInner, hOwn]
      rfl

------------------------------------------------------------
-- Reading Texts
------------------------------------------------------------

/- A text is read as the value that the draft it spells
   tells. -/
theorem Decoder.Reads.decodeText_eq
    {decoder : Decoder α}
    {tells : Telling}
    {value : α}
    {draft : Draft}
    {lost : List String}
    {text : String}
    (hReads : decoder.Reads depth tells value)
    (hDepth : depth ≤ maxDepth)
    (hText : Draft.Spells text.toList draft)
    (hTells : tells draft lost) :
    decodeText decoder text = outcome lost value := by
  simp only [decodeText, JsonDocument.ofText_of_spells hText,
    hReads draft lost hTells maxDepth hDepth]
  cases lost <;> rfl

end LatencySweep
