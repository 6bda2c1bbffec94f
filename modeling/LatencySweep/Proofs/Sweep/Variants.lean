import LatencySweep.Proofs.Json.Acceptance
import LatencySweep.Proofs.Sweep.Codec

/-
  Texts of a sweep may be written in many ways.

  In each object the members may stand in any order, with
  others between them, and without the ones that have their
  defaults. Every such text is decoded to the same sweep. If
  one of the objects has lost members that have to be there,
  then the first of them is missed.

  Main declarations:
    * `Sweep.ReadsVariants`
    * `Sweep.HasWords.readsVariants`
-/

namespace LatencySweep

namespace Sweep

variable {sweep : Sweep}

/-
  Whatever tells the sweep is read as the sweep. Its own
  JSON is one way to tell it. What has lost members in one
  object fails with the first of them.
-/
structure ReadsVariants (sweep : Sweep) : Prop where
  own : sweep.telling sweep.toJson.draft []
  whole :
    ∀ (text : String) (draft : Draft),
      Draft.Spells text.toList draft →
        sweep.telling draft [] →
          ofJsonText text = .ok sweep
  lacking :
    ∀ (text : String) (draft : Draft)
      (name : String) (others : List String),
      Draft.Spells text.toList draft →
        sweep.telling draft (name :: others) →
          ofJsonText text =
            .error (.mismatch (.missingField name))

/- Every sweep with numbers of 64 bits is read from all its
   variants. -/
theorem HasWords.readsVariants
    (hWords : sweep.HasWords) :
    sweep.ReadsVariants where
  own := sweep.telling_draft
  whole := by
    intro text draft hText hTells
    exact
      (decoder_reads hWords).decodeText_eq (by decide) hText
        hTells
  lacking := by
    intro text draft name others hText hTells
    exact
      (decoder_reads hWords).decodeText_eq (by decide) hText
        hTells

------------------------------------------------------------
-- An Untidy Text
------------------------------------------------------------

def frugalAxis : Axis :=
  { name := "rate"
    flag := "r"
    token := "é"
    values := [.integer (-1), .text "-1"] }

/- A sweep with many defaults. -/
def frugal : Sweep :=
  { name := "a"
    axes := [frugalAxis]
    concurrency := 2
    simulator := { runner := "sim", scenario := "s" }
    analyses :=
      [ { name := "b", program := "p", inputFile := "i" } ]
    dirPrefix := "d" }

/- Its axis from back to front, with an escape in a key and
   another one in a value. -/
def untidyAxis : List NamedMember :=
  [ .ofJson
      ("values", .array [.integer (-1), .string "-1"]),
    .ofText "token"
      (.string { units := [.code 233], fault? := none }),
    .ofJson ("flag", .string "r"),
    { key :=
        { units := [.char 'n', .code 97, .char 'm', .char 'e']
          fault? := none }
      name := "name"
      hName := by decide
      value := (Json.string "rate").draft } ]

/- The axis without its flag and its values. -/
def brokenAxis : List NamedMember :=
  [ .ofJson ("token", .string "é"),
    .ofJson ("name", .string "rate") ]

def untidySimulator : List NamedMember :=
  [ .ofJson ("name", .null),
    .ofJson ("prebuild", .bool false),
    .ofJson ("scenario", .string "s"),
    .ofJson ("runner", .string "sim") ]

def untidyStep : List NamedMember :=
  [ .ofJson ("input_file", .string "i"),
    .ofJson ("program", .string "p"),
    .ofJson ("name", .string "b") ]

/- Notes that could not be read as a value. -/
def untidyNotes : Draft :=
  .list
    (.ofList
      [ .number (.ok .outOfRange),
        .string { units := [.code 0xd800], fault? := none } ])

/- The whole sweep from back to front around an axis. -/
def untidyMembers
    (axis : List NamedMember) : List NamedMember :=
  [ .ofText "notes" untidyNotes,
    .ofJson ("dir_prefix", .string "d"),
    .ofText "analyses"
      (.list (.ofList [.ofMembers untidyStep])),
    .ofText "simulator" (.ofMembers untidySimulator),
    .ofJson ("concurrency", .integer 2),
    .ofText "axes" (.list (.ofList [.ofMembers axis])),
    .ofJson ("name", .string "a") ]

/- The text of the notes. -/
def untidyNotesText : List Char :=
  "[1e999, \"\\ud800\"]".toList

/- The text of the whole sweep around that of an axis. -/
def untidyText (axis : List Char) : List Char :=
  "\x7b\"notes\": ".toList ++ untidyNotesText ++
    ",\n\"dir_prefix\": \"d\",\n".toList ++
    "\"analyses\": [\x7b\"input_file\": \"i\",\n".toList ++
    "\"program\": \"p\", \"name\": \"b\"\x7d],".toList ++
    "\"simulator\": \x7b\"name\": null,\n".toList ++
    "\"prebuild\": false, \"scenario\": \"s\",\n".toList ++
    "\"runner\": \"sim\"\x7d,\n".toList ++
    "\"concurrency\": 2,\n".toList ++
    "\"axes\": [".toList ++ axis ++ "],\n".toList ++
    "\"name\": \"a\"\x7d\n".toList

/- The text of the axis. -/
def untidyAxisText : List Char :=
  "\x7b\"values\": [-1, \"-1\"],\n".toList ++
    "\"token\": \"\\u00e9\", \"flag\": \"r\",".toList ++
    "\"n\\u0061me\": \"rate\"\x7d".toList

/- The text of the axis without its flag and its values. -/
def brokenAxisText : List Char :=
  "\x7b\"token\":\"é\", \"name\":\"rate\"\x7d".toList

theorem telling_untidyAxis :
    frugalAxis.telling (.ofMembers untidyAxis) [] := by
  have hToken :
      Telling.text "é"
        (.string { units := [.code 233], fault? := none })
        [] :=
    ⟨rfl, _, by decide, rfl⟩
  have hValues :=
    Telling.list_draft fun value (_ : value ∈ frugalAxis.values) =>
      value.telling_draft
  have hFields :
      Telling.Fields frugalAxis.entries untidyAxis.reverse []
        [] :=
    .whole rfl (Telling.text_draft _) <|
    .whole rfl (Telling.text_draft _) <|
    .whole rfl hToken <|
    .whole rfl hValues .nil
  exact
    Telling.record_of_fields hFields
      (List.reverse_perm _).symm (Or.inl rfl)

theorem telling_brokenAxis :
    frugalAxis.telling (.ofMembers brokenAxis)
      ["flag", "values"] := by
  have hFields :
      Telling.Fields frugalAxis.entries brokenAxis.reverse
        ["flag", "values"] [] :=
    .whole rfl (Telling.text_draft _) <|
    .lost rfl <|
    .whole rfl (Telling.text_draft _) <|
    .lost rfl .nil
  exact
    Telling.record_of_fields hFields
      (List.reverse_perm _).symm (Or.inr rfl)

theorem telling_untidySimulator :
    frugal.simulator.telling (.ofMembers untidySimulator)
      [] := by
  have hFields :
      Telling.Fields frugal.simulator.entries
        (untidySimulator.drop 1).reverse [] [] :=
    .whole rfl (Telling.text_draft _) <|
    .whole rfl (Telling.text_draft _) <|
    .left rfl <|
    .left rfl <|
    .whole rfl ⟨rfl, rfl⟩ .nil
  have hExtras :
      ∀ extra ∈ untidySimulator.take 1,
        Telling.IsExtra frugal.simulator.entries extra := by
    intro extra hExtra
    rw [List.mem_singleton.mp hExtra]
    exact ⟨by decide, _, .null⟩
  have hOrder :
      untidySimulator.Perm
        ((untidySimulator.drop 1).reverse ++
          untidySimulator.take 1) :=
    (List.reverse_perm untidySimulator).symm
  exact .shuffled hFields hExtras hOrder (Or.inl rfl)

theorem telling_untidyStep :
    ∀ step ∈ frugal.analyses,
      step.telling (.ofMembers untidyStep) [] := by
  intro step hStep
  have hFields :
      Telling.Fields step.entries untidyStep.reverse [] [] := by
    rw [List.mem_singleton.mp hStep]
    exact
      .whole rfl (Telling.text_draft _) <|
      .whole rfl (Telling.text_draft _) <|
      .left rfl <|
      .whole rfl (Telling.text_draft _) <|
      .left rfl .nil
  exact
    Telling.record_of_fields hFields
      (List.reverse_perm _).symm (Or.inl rfl)

/- What the axis has lost, the whole sweep has lost. -/
theorem telling_untidy
    {axis : List NamedMember}
    {lost : List String}
    (hAxis : frugalAxis.telling (.ofMembers axis) lost) :
    frugal.telling (.ofMembers (untidyMembers axis)) lost := by
  have hAxes :
      Telling.list Axis.telling frugal.axes
        (.list (.ofList [.ofMembers axis])) (lost ++ []) :=
    ⟨_, .cons hAxis .nil (Or.inr rfl), rfl⟩
  have hSteps :
      Telling.list AnalysisStep.telling frugal.analyses
        (.list (.ofList [.ofMembers untidyStep])) [] :=
    ⟨_,
      .cons (telling_untidyStep _ List.mem_cons_self) .nil
        (Or.inl rfl),
      rfl⟩
  have hFields :
      Telling.Fields frugal.entries
        ((untidyMembers axis).drop 1).reverse []
        ((lost ++ []) ++ []) :=
    .whole rfl (Telling.text_draft _) <|
    .told rfl hAxes
      (.whole rfl ⟨rfl, rfl⟩ <|
        .whole rfl telling_untidySimulator <|
        .whole rfl hSteps <|
        .left rfl <|
        .whole rfl (Telling.text_draft _) <|
        .left rfl <|
        .left rfl .nil)
      (Or.inr rfl)
  rw [List.append_nil, List.append_nil] at hFields
  have hExtras :
      ∀ extra ∈ (untidyMembers axis).take 1,
        Telling.IsExtra frugal.entries extra := by
    intro extra hExtra
    rw [List.mem_singleton.mp hExtra]
    exact ⟨by decide, untidyNotesText, by decide +kernel⟩
  have hOrder :
      (untidyMembers axis).Perm
        (((untidyMembers axis).drop 1).reverse ++
          (untidyMembers axis).take 1) :=
    (List.reverse_perm (untidyMembers axis)).symm
  exact .shuffled hFields hExtras hOrder (Or.inl rfl)

/- The untidy text is read as the sweep. Around the broken
   axis it is not read, since a flag is missing. -/
theorem readsVariants_frugal :
    frugal.HasWords ∧
      ofJsonText
          (String.ofList (untidyText untidyAxisText)) =
        .ok frugal ∧
      ofJsonText
          (String.ofList (untidyText brokenAxisText)) =
        .error (.mismatch (.missingField "flag")) := by
  have hWords : frugal.HasWords := by
    refine ⟨by decide, ?_⟩
    simp [frugal, frugalAxis, AxisValue.IsWord, twoTo]
  have hReads := hWords.readsVariants
  refine ⟨hWords, ?_, ?_⟩
  · apply hReads.whole _ (.ofMembers (untidyMembers untidyAxis))
    · rw [String.toList_ofList]
      decide +kernel
    · exact telling_untidy telling_untidyAxis
  · apply
      hReads.lacking _
        (.ofMembers (untidyMembers brokenAxis)) "flag"
        ["values"]
    · rw [String.toList_ofList]
      decide +kernel
    · exact telling_untidy telling_brokenAxis

end Sweep

end LatencySweep
