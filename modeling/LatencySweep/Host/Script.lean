import LatencySweep.Host.World

/-
  A runner that follows a script instead of starting
  programs.

  The first rule whose text occurs in a shown invocation
  says how the invocation ends. Without such a rule it ends
  at once with exit code zero.

  Key definitions include:
    * `Rule`
    * `Script.rule?`
    * `Script.runner`
-/

namespace LatencySweep

/- How an invocation ends under a script. -/
inductive ScriptedEnding where
  | exits (code : Option Int) (duration : Duration)
  | fails (cause : OsError)
  deriving DecidableEq

/- A rule for invocations whose text holds a given one. The
   files are written next to the log file before. -/
structure Rule where
  needle : String
  ending : ScriptedEnding
  files : List (String × Bytes) := []
  deriving DecidableEq

/- A text occurs somewhere in another one. -/
def occursIn (needle : List Char) : List Char → Bool
  | [] => needle.isEmpty
  | c :: rest =>
      needle.isPrefixOf (c :: rest) || occursIn needle rest

namespace Script

/- The rule that applies to an invocation. -/
def rule?
    (rules : List Rule)
    (invocation : Invocation) : Option Rule :=
  rules.find? fun rule =>
    occursIn rule.needle.toList invocation.toText.toList

/- Write files into a directory, as far as this is
   possible. -/
def writeFiles
    (dir : Path) :
    List (String × Bytes) → FileTree → FileTree
  | [], tree => tree
  | (name, content) :: rest, tree =>
      match tree.write (dir / name) content with
      | .ok tree => writeFiles dir rest tree
      | .error _ => writeFiles dir rest tree

/- How an invocation ends that no rule applies to. -/
def defaultEnding : ScriptedEnding :=
  .exits (some 0) ⟨0⟩

/- The result of an invocation. -/
def resultOf
    (invocation : Invocation) :
    ScriptedEnding → Except OsError Outcome
  | .fails cause => .error cause
  | .exits exitCode duration =>
      .ok { exitCode, duration, logPath := invocation.logPath }

/- The runner of a script. -/
def runner (rules : List Rule) : Runner Unit where
  run invocation tree programs :=
    let rule := rule? rules invocation
    let files := (rule.map Rule.files).getD []
    let ending := (rule.map Rule.ending).getD defaultEnding
    { result := resultOf invocation ending
      tree :=
        writeFiles invocation.logPath.parentDir files tree
      programs
      messages := [] }

end Script

end LatencySweep
