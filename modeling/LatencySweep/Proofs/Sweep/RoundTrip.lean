import LatencySweep.Proofs.CommandLine.Printing
import LatencySweep.Proofs.Sweep.Codec

/-
  What is written of a sweep describes this very sweep.

  In either layout the text is decoded to the sweep that it
  was written for. The printout of a valid sweep can
  therefore take the place of its file: it is loaded as the
  same sweep, and printed as the same text.

  Main declarations:
    * `Sweep.ofJsonText_write`
    * `Sweep.RoundTrips`
    * `Sweep.HasWords.roundTrips`
-/

namespace LatencySweep

namespace Sweep

variable {sweep : Sweep}

------------------------------------------------------------
-- Texts
------------------------------------------------------------

/- A sweep is given back by its text in any layout, with
   blanks behind it. -/
theorem ofJsonText_write
    {layout : Json.Layout}
    (hWords : sweep.HasWords)
    (hLayout : layout.IsBlank)
    {blanks : List Char}
    (hBlanks : AreGaps blanks) :
    ofJsonText
        (String.ofList
          (sweep.toJson.write layout 0 ++ blanks)) =
      .ok sweep := by
  have hSpells :=
    Json.spells_write hLayout sweep.toJson 0
      (toJson_isReadable hWords)
  have hText :
      Draft.Spells
        (String.ofList
          (sweep.toJson.write layout 0 ++ blanks)).toList
        sweep.toJson.draft := by
    rw [String.toList_ofList]
    exact hSpells.append_gaps hBlanks
  exact
    (decoder_reads hWords).decodeText_eq (by decide) hText
      sweep.telling_draft

theorem ofJsonText_compact
    (hWords : sweep.HasWords) :
    ofJsonText sweep.toJson.compact = .ok sweep := by
  have hText :=
    ofJsonText_write hWords Json.Layout.isBlank_oneLine
      areGaps_nil
  rwa [List.append_nil] at hText

theorem ofJsonText_pretty
    (hWords : sweep.HasWords) :
    ofJsonText sweep.toJson.pretty = .ok sweep := by
  have hText :=
    ofJsonText_write hWords Json.Layout.isBlank_indented
      areGaps_nil
  rwa [List.append_nil] at hText

/- The line break behind a printout is skipped. -/
theorem ofJsonText_printout
    (hWords : sweep.HasWords) :
    ofJsonText sweep.printout = .ok sweep := by
  have hText :=
    ofJsonText_write hWords Json.Layout.isBlank_indented
      (areGaps_singleton (c := '\n') rfl)
  rwa [String.ofList_append] at hText

------------------------------------------------------------
-- Files
------------------------------------------------------------

/- The printout of a valid sweep is loaded as the sweep. -/
theorem ofFile_printout
    (hWords : sweep.HasWords)
    (hValid : sweep.IsValid)
    {path : Path}
    {tree : FileTree}
    (hFile :
      tree.read path = .ok (Bytes.ofText sweep.printout)) :
    ofFile path tree = .ok sweep := by
  have hText : tree.readText path = .ok sweep.printout := by
    rw [FileTree.readText, hFile]
    simp only [Bytes.toText?_ofText]
  have hSound : sweep.defect? = none := hValid
  simp only [ofFile, hText, ofJsonText_printout hWords,
    hSound]

theorem path_ne_empty_of_read
    {path : Path}
    {tree : FileTree}
    {content : Bytes}
    (hFile : tree.read path = .ok content) :
    path.text ≠ "" := by
  intro hEmpty
  have hLocate : tree.locate path = .error .notFound := by
    rw [FileTree.locate, hEmpty]
    rfl
  rw [FileTree.read, hLocate] at hFile
  cases hFile

/-
  The texts of the sweep describe it and no other sweep.
  Whoever prints it prints its printout. If it is valid,
  then a file that holds the printout is loaded as the
  sweep, and the command prints the same text from there.
-/
structure RoundTrips (sweep : Sweep) : Prop where
  compact : ofJsonText sweep.toJson.compact = .ok sweep
  pretty : ofJsonText sweep.toJson.pretty = .ok sweep
  distinct :
    ∀ other : Sweep, other.HasWords →
      other.toJson.compact = sweep.toJson.compact ∨
          other.toJson.pretty = sweep.toJson.pretty →
        other = sweep
  printed :
    ∀ {σ : Type} (runner : Runner σ) (programs : σ)
      (tree : FileTree) (args : List String)
      (o : SweepOptions),
      SweepOptions.form.read args = .ok o →
        o.printConfig = true → o.load tree = .ok sweep →
          Prints
            (sweepCommand runner args (.start tree programs))
            sweep.printout
  loaded :
    sweep.IsValid → ∀ (tree : FileTree) (path : Path),
      tree.read path = .ok (Bytes.ofText sweep.printout) →
        ofFile path tree = .ok sweep
  reprinted :
    sweep.IsValid → ∀ (tree : FileTree) (path : Path),
      tree.read path = .ok (Bytes.ofText sweep.printout) →
        ∀ {σ : Type} (runner : Runner σ) (programs : σ),
          Prints
            (sweepCommand runner
              (SweepOptions.printArgs path)
              (.start tree programs))
            sweep.printout

/- Every sweep with numbers of 64 bits survives being
   written, printed and loaded. -/
theorem HasWords.roundTrips
    (hWords : sweep.HasWords) :
    sweep.RoundTrips where
  compact := ofJsonText_compact hWords
  pretty := ofJsonText_pretty hWords
  distinct := by
    intro other hOther hSame
    apply Except.ok.inj
    rcases hSame with hSame | hSame
    · rw [← ofJsonText_compact hOther, hSame,
        ofJsonText_compact hWords]
    · rw [← ofJsonText_pretty hOther, hSame,
        ofJsonText_pretty hWords]
  printed := by
    intro σ runner programs tree args o hRead hPrint hLoad
    exact prints_printout runner programs hRead hPrint hLoad
  loaded := by
    intro hValid tree path hFile
    exact ofFile_printout hWords hValid hFile
  reprinted := by
    intro hValid tree path hFile σ runner programs
    have hPath := path_ne_empty_of_read hFile
    have hLoaded := ofFile_printout hWords hValid hFile
    exact
      prints_printout runner programs
        (SweepOptions.read_printArgs hPath) rfl
        (load_printOptions hLoaded hValid)

/- A sweep whose values look alike when they are read as
   text, and whose strings want escapes. -/
def lookalike : Sweep :=
  { name := "a \"quoted\" name\\\n\x01\x7fé😀"
    axes :=
      [ { name := "a"
          flag := "a"
          token := "a"
          values := [.bool true, .text "1"] },
        { name := "b"
          flag := "b"
          token := "b"
          values :=
            [.text "true", .integer 1,
              .integer (-(twoTo 63 : Int))] } ]
    concurrency := twoTo 64 - 1
    simulator :=
      { runner := "sim"
        scenario := "s"
        fixedFlags := [("tab\t", "")] }
    outputRoot := ⟨"ä/ö"⟩
    onFailure := .skipAnalysis }

/- A tree with the printout of that sweep in a file. -/
def lookalikeTree : FileTree :=
  FileTree.empty.put ["work", "sweep.json"]
    (.file (Bytes.ofText lookalike.printout))

theorem roundTrips_lookalike :
    lookalike.HasWords ∧ lookalike.IsValid ∧
      ofJsonText lookalike.toJson.compact = .ok lookalike ∧
      ofFile ⟨"sweep.json"⟩ lookalikeTree =
        .ok lookalike := by
  have hWords : lookalike.HasWords := by
    refine ⟨by decide, ?_⟩
    simp [lookalike, AxisValue.IsWord, twoTo]
  have hValid : lookalike.IsValid := by decide +kernel
  have hFile :
      lookalikeTree.read ⟨"sweep.json"⟩ =
        .ok (Bytes.ofText lookalike.printout) := by
    rfl
  have hTrips := hWords.roundTrips
  exact
    ⟨hWords, hValid, hTrips.compact,
      hTrips.loaded hValid _ _ hFile⟩

end Sweep

end LatencySweep
