import LatencySweep.Proofs.FileTree.Locate
import LatencySweep.Proofs.Path.Parent

/-
  Creating a directory together with its parents.

  If this goes well, the path leads to a directory, and what
  is new are the directories that the path leads through.

  Main declarations:
    * `FileTree.Grows`
    * `FileTree.grows_createDirectories`
    * `FileTree.isDirectory_of_createDirectories`
    * `FileTree.find?_of_createDirectories`
-/

namespace LatencySweep

------------------------------------------------------------
-- Ancestors
------------------------------------------------------------

namespace Path

/- A path leads through all places that its parent leads
   through. -/
theorem stops_parent
    {p parent : Path}
    (workDir : Location)
    (hParent : p.parent? = some parent)
    (hText : parent.text ≠ "") :
    parent.stops workDir ⊆ p.stops workDir := by
  have hOrigin : parent.origin workDir = p.origin workDir := by
    rw [origin, origin, isAbsolute_parent hParent hText]
  have hSteps :
      p.stepNames =
        parent.stepNames ++
          (p.steps.drop parent.steps.length).map
            String.ofList := by
    rw [stepNames_eq_map, stepNames_eq_map, ← List.map_append]
    congr 1
    have hFront := List.dropLast_prefix p.steps
    rw [← steps_parent hParent hText] at hFront
    exact (List.prefix_iff_eq_append.mp hFront).symm
  unfold stops
  rw [hOrigin, hSteps, FileTree.visited_append]
  exact List.subset_append_left _ _

/- The empty path has no ancestor but itself. -/
theorem ancestors_empty
    {n : Nat}
    {ancestor : Path}
    (hAncestor :
      ancestor ∈ FileTree.ancestorsUpTo n ⟨""⟩) :
    ancestor.text = "" := by
  cases n with
  | zero => cases hAncestor
  | succ n =>
      have hNone : (⟨""⟩ : Path).parent? = none := by decide
      rw [FileTree.ancestorsUpTo, hNone] at hAncestor
      rw [List.mem_singleton.mp hAncestor]

/- It leads through all places that an ancestor leads
   through. -/
theorem stops_ancestorsUpTo
    {n : Nat}
    {p ancestor : Path}
    (workDir : Location)
    (hAncestor : ancestor ∈ FileTree.ancestorsUpTo n p)
    (hText : ancestor.text ≠ "") :
    ancestor.stops workDir ⊆ p.stops workDir := by
  induction n generalizing p with
  | zero => cases hAncestor
  | succ n ih =>
      unfold FileTree.ancestorsUpTo at hAncestor
      cases hParent : p.parent? with
      | none =>
          rw [hParent] at hAncestor
          cases List.mem_singleton.mp hAncestor
          exact List.Subset.refl _
      | some parent =>
          rw [hParent] at hAncestor
          rcases List.mem_cons.mp hAncestor with rfl | hRest
          · exact List.Subset.refl _
          · by_cases hEmpty : parent.text = ""
            · cases parent
              cases hEmpty
              exact absurd (ancestors_empty hRest) hText
            · exact List.Subset.trans (ih hRest)
                (stops_parent workDir hParent hEmpty)

end Path

namespace FileTree

------------------------------------------------------------
-- Growing by Directories
------------------------------------------------------------

/- Apart from new directories at some of the places, nothing
   has changed. -/
structure Grows
    (places : List Location)
    (tree next : FileTree) : Prop where
  workDir : next.workDir = tree.workDir
  cases :
    ∀ place,
      next.find? place = tree.find? place ∨
        tree.find? place = none ∧
          next.find? place = some .directory ∧
          place ∈ places

theorem grows_refl
    (places : List Location)
    (tree : FileTree) :
    Grows places tree tree :=
  { workDir := rfl, cases := fun _ => Or.inl rfl }

theorem Grows.trans
    {places : List Location}
    {first second third : FileTree}
    (hFirst : Grows places first second)
    (hSecond : Grows places second third) :
    Grows places first third := by
  refine
    { workDir := hSecond.workDir.trans hFirst.workDir
      cases := ?_ }
  intro place
  rcases hSecond.cases place with hSame | ⟨hNone, hNew⟩
  · rw [hSame]
    exact hFirst.cases place
  · rcases hFirst.cases place with hSame | ⟨_, hOld, _⟩
    · exact Or.inr ⟨hSame ▸ hNone, hNew⟩
    · rw [hOld] at hNone
      cases hNone

variable {tree next : FileTree} {p : Path}

theorem Creates.grows
    {places : List Location}
    (hCreates : tree.Creates p next)
    (hStops : p.stops tree.workDir ⊆ places) :
    Grows places tree next := by
  have hNext := hCreates.next_eq
  refine
    { workDir := hCreates.extends.workDir
      cases := ?_ }
  intro place
  by_cases hPlace : place = p.place tree.workDir
  · have hFresh := hCreates.fresh
    have hNamed : p.place tree.workDir ≠ [] := by
      intro hRoot
      rw [hRoot] at hFresh
      cases hFresh
    rw [hPlace, hNext, find?_put_self _ _ hNamed]
    exact Or.inr ⟨hFresh, rfl, hStops hCreates.stops⟩
  · left
    rw [hNext, find?_put_of_ne _ _ hPlace]

/- Ensuring a directory creates it or finds it. -/
theorem ensureDirectory_eq_ok
    (hEnsure : tree.ensureDirectory p = .ok next) :
    tree.Creates p next ∨
      next = tree ∧ tree.isDirectory p = true := by
  unfold ensureDirectory at hEnsure
  split at hEnsure
  next created hCreate =>
    cases hEnsure
    exact Or.inl (creates_of_createDirectory hCreate)
  next e hCreate =>
    split at hEnsure
    next hDirectory =>
      cases hEnsure
      exact Or.inr ⟨rfl, hDirectory⟩
    next => cases hEnsure

theorem isDirectory_of_ensureDirectory
    (hEnsure : tree.ensureDirectory p = .ok next) :
    next.isDirectory p = true := by
  rcases ensureDirectory_eq_ok hEnsure with
    hCreates | ⟨rfl, hDirectory⟩
  · exact hCreates.isDirectory
  · exact hDirectory

theorem grows_ensureDirectory
    {places : List Location}
    (hEnsure : tree.ensureDirectory p = .ok next)
    (hStops : p.stops tree.workDir ⊆ places) :
    Grows places tree next := by
  rcases ensureDirectory_eq_ok hEnsure with
    hCreates | ⟨rfl, _⟩
  · exact hCreates.grows hStops
  · exact grows_refl _ _

------------------------------------------------------------
-- Creating Parents
------------------------------------------------------------

/- What is new are places that the paths lead through. -/
theorem grows_createFrom
    {places : List Location}
    {paths : List Path}
    (tree : FileTree)
    (hStops :
      ∀ p ∈ paths,
        p.text ≠ "" → p.stops tree.workDir ⊆ places) :
    Grows places tree (tree.createFrom paths).2 := by
  induction paths generalizing tree with
  | nil => exact grows_refl _ _
  | cons p parents ih =>
      rw [List.forall_mem_cons] at hStops
      have hParents := ih tree hStops.2
      unfold createFrom
      split
      next => exact grows_refl _ _
      next hText =>
        have hPath := hStops.1 hText
        split
        next made hEnsure =>
          exact grows_ensureDirectory hEnsure hPath
        next hEnsure =>
          split
          next e made hFailed =>
            rw [hFailed] at hParents
            exact hParents
          next u made hMade =>
            rw [hMade] at hParents
            have hLater :
                p.stops made.workDir ⊆ places := by
              rw [hParents.workDir]
              exact hPath
            split
            next last hEnsure =>
              exact hParents.trans
                (grows_ensureDirectory hEnsure hLater)
            next => exact hParents
        next => exact grows_refl _ _

/- Once the first path is there, it leads to a directory. -/
theorem isDirectory_of_createFrom
    {parents : List Path}
    (hCreate :
      tree.createFrom (p :: parents) = (.ok (), next)) :
    p.text = "" ∧ next = tree ∨
      next.isDirectory p = true := by
  unfold createFrom at hCreate
  split at hCreate
  next hText =>
    cases hCreate
    exact Or.inl ⟨hText, rfl⟩
  next =>
    right
    split at hCreate
    next made hEnsure =>
      cases hCreate
      exact isDirectory_of_ensureDirectory hEnsure
    next =>
      split at hCreate
      next => cases hCreate
      next u made hMade =>
        split at hCreate
        next last hEnsure =>
          cases hCreate
          exact isDirectory_of_ensureDirectory hEnsure
        next => cases hCreate
    next => cases hCreate

theorem exists_ancestors (p : Path) :
    ∃ parents, ancestors p = p :: parents := by
  unfold ancestors ancestorsUpTo
  split
  next => exact ⟨[], rfl⟩
  next parent => exact ⟨_, rfl⟩

/- What is new are places that the path leads through. -/
theorem grows_createDirectories
    (tree : FileTree)
    (p : Path) :
    Grows (p.stops tree.workDir) tree
      (tree.createDirectories p).2 :=
  grows_createFrom tree fun _ hAncestor hText =>
    Path.stops_ancestorsUpTo tree.workDir hAncestor hText

/- The path leads to a directory then, unless it is empty. -/
theorem isDirectory_of_createDirectories
    (hCreate :
      tree.createDirectories p = (.ok (), next)) :
    p.text = "" ∨ next.isDirectory p = true := by
  rcases exists_ancestors p with ⟨parents, hParents⟩
  rw [createDirectories, hParents] at hCreate
  rcases isDirectory_of_createFrom hCreate with
    ⟨hText, _⟩ | hDirectory
  · exact Or.inl hText
  · exact Or.inr hDirectory

/- Where the path leads to a directory, nothing is created. -/
theorem ensureDirectory_of_isDirectory
    (hDirectory : tree.isDirectory p = true) :
    tree.ensureDirectory p = .ok tree := by
  unfold ensureDirectory
  cases hCreate : tree.createDirectory p with
  | ok next =>
      have hFresh := (creates_of_createDirectory hCreate).fresh
      rw [(isDirectory_iff.mp hDirectory).2.2] at hFresh
      cases hFresh
  | error e => exact if_pos hDirectory

theorem createDirectories_of_isDirectory
    (hThere : p.text = "" ∨ tree.isDirectory p = true) :
    tree.createDirectories p = (.ok (), tree) := by
  rcases exists_ancestors p with ⟨parents, hParents⟩
  rw [createDirectories, hParents, createFrom]
  by_cases hText : p.text = ""
  · rw [if_pos hText]
  · rw [if_neg hText,
      ensureDirectory_of_isDirectory
        (hThere.resolve_left hText)]

/-
  Whatever stood anywhere still stands there, and the places
  that the path leads through are directories.
-/
theorem find?_of_createDirectories
    (hCreate :
      tree.createDirectories p = (.ok (), next))
    (place : Location) :
    next.find? place =
      (tree.find? place).or
        (if place ∈ p.stops tree.workDir then
          some .directory
        else none) := by
  have hGrows := grows_createDirectories tree p
  rw [hCreate] at hGrows
  by_cases hStop : place ∈ p.stops tree.workDir
  · have hDirectory :
        next.find? place = some .directory := by
      rcases isDirectory_of_createDirectories hCreate with
        hText | hDirectory
      · cases p
        cases hText
        cases hStop
      · have hReaches := (isDirectory_iff.mp hDirectory).2.1
        apply hReaches.directories
        rwa [hGrows.workDir]
    rw [if_pos hStop]
    rcases hGrows.cases place with hSame | ⟨hNone, hNew, _⟩
    · rw [← hSame, hDirectory]
      rfl
    · rw [hNone, hNew]
      rfl
  · rw [if_neg hStop, Option.or_none]
    rcases hGrows.cases place with hSame | ⟨_, _, hPlace⟩
    · exact hSame
    · exact absurd hPlace hStop

end FileTree

end LatencySweep
