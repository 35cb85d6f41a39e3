import SchemaClasses.Proofs.Files.Directories

/-!
# Trees that extend others

A path that can be followed in a tree can be followed in every tree that has the same items and
more.  So a directory that has been created is found there again, and creating it once more changes
nothing.
-/

namespace SchemaClasses
namespace FileTree

variable {tree before middle after created : FileTree} {working start names location : List String}
  {path name : String} {error : SystemError}

/-- A tree has an item wherever another one has, and a directory where that has a directory. -/
structure Extends (before after : FileTree) : Prop where
  directories : DirectoriesIn before after
  present : ∀ location,
    (before.item? location).isSome = true → (after.item? location).isSome = true

namespace Extends

theorem trans (first : Extends before middle) (second : Extends middle after) :
    Extends before after where
  directories location isDirectory :=
    second.directories location (first.directories location isDirectory)
  present location isPresent := second.present location (first.present location isPresent)

theorem walk (extension : Extends before after) (walked : before.walk start names = .ok location) :
    after.walk start names = .ok location := by
  induction names generalizing start with
  | nil => exact walked
  | cons name names ih =>
      rw [walk_cons] at walked ⊢
      obtain ⟨next, stepped, walked⟩ := Steps.bind_eq_ok_iff.mp walked
      refine Steps.bind_eq_ok_iff.mpr ⟨next, ?_, ih walked⟩
      obtain ⟨startEq, ways⟩ := step_eq_ok_iff.mp stepped
      refine step_eq_ok_iff.mpr ⟨extension.directories start startEq, ?_⟩
      rcases ways with here | up | ⟨notDot, notDots, short, isPresent, nextEq⟩
      · exact Or.inl here
      · exact Or.inr (Or.inl up)
      · have presentAfter := extension.present _ (Option.isSome_iff_exists.mpr isPresent)
        exact Or.inr (Or.inr
          ⟨notDot, notDots, short, Option.isSome_iff_exists.mp presentAfter, nextEq⟩)

theorem locate (extension : Extends before after)
    (located : before.locate working path = .ok location) :
    after.locate working path = .ok location := by
  obtain ⟨parts, partsEq, followed⟩ := Steps.bind_eq_ok_iff.mp located
  exact Steps.bind_eq_ok_iff.mpr ⟨parts, partsEq, extension.walk followed⟩

theorem resolve (extension : Extends before after)
    (resolved : before.resolve working path = .ok location) :
    after.resolve working path = .ok location := by
  obtain ⟨parts, partsEq, followed⟩ := Steps.bind_eq_ok_iff.mp resolved
  exact Steps.bind_eq_ok_iff.mpr ⟨parts, partsEq, extension.walk followed⟩

end Extends

theorem AddsDirectories.extends (adds : AddsDirectories before after) : Extends before after where
  directories := adds.directoriesIn
  present location isPresent := by
    rcases adds location with kept | ⟨missing, -⟩
    · rwa [kept]
    · rw [missing] at isPresent
      nomatch isPresent

theorem isDirectory_eq_true_iff :
    tree.isDirectory working path = true ↔
      ∃ location, tree.locate working path = .ok location ∧
        tree.item? location = some .directory := by
  unfold isDirectory
  cases tree.locate working path <;> simp

/-- A directory is what can be listed. -/
theorem exists_fileNames_iff :
    (∃ names, tree.fileNames working path = .ok names) ↔
      tree.isDirectory working path = true := by
  rw [isDirectory_eq_true_iff]
  constructor
  · rintro ⟨names, listed⟩
    obtain ⟨location, located, read⟩ := Steps.bind_eq_ok_iff.mp listed
    split at read
    · next isDirectory => exact ⟨location, located, isDirectory⟩
    · cases read
  · rintro ⟨location, located, isDirectory⟩
    simp [fileNames, located, isDirectory, bind, Except.bind]

theorem Extends.isDirectory (extension : Extends before after)
    (isDirectory : before.isDirectory working path = true) :
    after.isDirectory working path = true := by
  obtain ⟨location, located, itemEq⟩ := isDirectory_eq_true_iff.mp isDirectory
  exact isDirectory_eq_true_iff.mpr
    ⟨location, extension.locate located, extension.directories location itemEq⟩

/-- A slash at the end of a path does no harm if the path leads to a directory. -/
theorem follow_eq_of_isDirectory (walked : tree.walk start names = .ok location)
    (isDirectory : tree.item? location = some .directory) :
    tree.follow path start names = .ok location := by
  unfold follow
  split
  · have stays : tree.step location "." = .ok location :=
      step_eq_ok_iff.mpr ⟨isDirectory, Or.inl ⟨rfl, rfl⟩⟩
    exact walk_concat_eq_ok_iff.mpr ⟨location, walked, stays⟩
  · exact walked

theorem walk_of_follow (followed : tree.follow path start names = .ok location) :
    tree.walk start names = .ok location := by
  unfold follow at followed
  split at followed
  · obtain ⟨outer, walked, stepped⟩ := walk_concat_eq_ok_iff.mp followed
    rcases (step_eq_ok_iff.mp stepped).2 with ⟨-, rfl⟩ | ⟨isDots, -⟩ | ⟨notDot, -⟩
    · exact walked
    · exact absurd isDots (by decide)
    · exact absurd rfl notDot
  · exact followed

theorem isDirectory_of_createDirectory
    (createdEq : tree.createDirectory working path = .ok created) :
    created.isDirectory working path = true := by
  obtain ⟨location, notRoot, -, rfl, walked⟩ := createDirectory_eq_put createdEq
  obtain ⟨⟨start, names⟩, partsEq, -⟩ := Steps.bind_eq_ok_iff.mp createdEq
  obtain ⟨rfl, rfl⟩ := openPath_parts partsEq
  have itemEq : (tree.put location .directory).item? location = some .directory :=
    item?_put_self notRoot
  refine isDirectory_eq_true_iff.mpr ⟨location, ?_, itemEq⟩
  exact Steps.bind_eq_ok_iff.mpr ⟨_, partsEq, follow_eq_of_isDirectory walked itemEq⟩

theorem createDirectory_of_isDirectory (isDirectory : tree.isDirectory working path = true) :
    tree.createDirectory working path = .error .fileExists := by
  obtain ⟨location, located, itemEq⟩ := isDirectory_eq_true_iff.mp isDirectory
  obtain ⟨⟨start, names⟩, partsEq, followed⟩ := Steps.bind_eq_ok_iff.mp located
  have walked := walk_of_follow followed
  unfold createDirectory
  refine Steps.bind_eq_error_iff.mpr (Or.inr ⟨(start, names), partsEq, ?_⟩)
  simp only
  split
  · rfl
  · next last lastEq =>
      obtain ⟨front, rfl⟩ := List.getLast?_eq_some_iff.mp lastEq
      obtain ⟨outer, walkedOuter, stepped⟩ := walk_concat_eq_ok_iff.mp walked
      obtain ⟨outerDirectory, ways⟩ := step_eq_ok_iff.mp stepped
      have short : last.utf8ByteSize ≤ nameLimit := by
        rcases ways with ⟨rfl, -⟩ | ⟨rfl, -⟩ | ⟨-, -, short, -⟩
        · decide
        · decide
        · exact short
      have locatedNew : tree.locateNew start front last = .ok (outer ++ [last]) :=
        locateNew_eq_ok_iff.mpr ⟨outer, walkedOuter, outerDirectory, short, rfl⟩
      rw [List.dropLast_concat]
      refine Steps.bind_eq_error_iff.mpr (Or.inr ⟨outer ++ [last], locatedNew, ?_⟩)
      split
      · rfl
      · next notPoints =>
          rcases ways with ⟨isDot, -⟩ | ⟨isDots, -⟩ | ⟨-, -, -, ⟨item, present⟩, -⟩
          · exact absurd (Or.inl isDot) notPoints
          · exact absurd (Or.inr isDots) notPoints
          · rw [present]

theorem acceptExisting_run (working : List String) (path : String) (error : SystemError)
    (tree : FileTree) :
    ((disk working).acceptExisting path error).run tree =
      if error = .fileExists ∧ tree.isDirectory working path = true then (.ok (), tree)
      else (.error error, tree) := by
  unfold Disk.acceptExisting
  by_cases isThere : error = .fileExists
  · rw [if_pos isThere]
    change (if tree.isDirectory working path then _ else _ : StateM FileTree _).run tree = _
    by_cases isDirectory : tree.isDirectory working path = true
    · rw [if_pos isDirectory, if_pos ⟨isThere, isDirectory⟩]
      rfl
    · rw [if_neg isDirectory, if_neg fun both => isDirectory both.2]
      rfl
  · rw [if_neg isThere, if_neg fun both => isThere both.1]
    rfl

theorem isDirectory_of_acceptExisting
    (accepted : ((disk working).acceptExisting path error).run tree = (.ok (), created)) :
    created.isDirectory working path = true := by
  rw [acceptExisting_run] at accepted
  split at accepted
  · next isThere =>
      obtain ⟨-, rfl⟩ := Prod.mk.inj accepted
      exact isThere.2
  · nomatch accepted

theorem run_bind {α β : Type} (action : StateM FileTree α) (next : α → StateM FileTree β)
    (tree : FileTree) :
    (action >>= next).run tree = (next (action.run tree).1).run (action.run tree).2 :=
  rfl

theorem createDirectory_run (working : List String) (path : String) (tree : FileTree) :
    ((disk working).createDirectory path).run tree =
      match tree.createDirectory working path with
      | .ok created => (.ok (), created)
      | .error error => (.error error, tree) :=
  rfl

/-- However a chain has been created, it ends in a directory at its first path. -/
theorem isDirectory_of_createChain {outer : List String}
    (createdEq : ((disk working).createChain (path :: outer)).run tree = (.ok (), created)) :
    created.isDirectory working path = true := by
  unfold Disk.createChain at createdEq
  rw [run_bind, createDirectory_run] at createdEq
  cases attempted : tree.createDirectory working path with
  | ok first =>
      rw [attempted] at createdEq
      obtain ⟨-, rfl⟩ := Prod.mk.inj createdEq
      exact isDirectory_of_createDirectory attempted
  | error error =>
      rw [attempted] at createdEq
      simp only at createdEq
      split at createdEq
      · next isOk => cases isOk
      · -- The directories around it were missing, so that there is a second attempt.
        rw [run_bind] at createdEq
        generalize ((disk working).createChain outer).run tree = outerRun at createdEq
        obtain ⟨outerResult, middle⟩ := outerRun
        cases outerResult with
        | error outerError => cases createdEq
        | ok done =>
            simp only at createdEq
            rw [run_bind, createDirectory_run] at createdEq
            cases again : middle.createDirectory working path with
            | ok second =>
                rw [again] at createdEq
                obtain ⟨-, rfl⟩ := Prod.mk.inj createdEq
                exact isDirectory_of_createDirectory again
            | error againError =>
                rw [again] at createdEq
                exact isDirectory_of_acceptExisting createdEq
      · exact isDirectory_of_acceptExisting createdEq

theorem isDirectory_of_createDirectories (notEmpty : path ≠ "")
    (createdEq : ((disk working).createDirectories path).run tree = (.ok (), created)) :
    created.isDirectory working path = true := by
  have pathEq : path.isEmpty = false := by simpa using notEmpty
  unfold Disk.createDirectories at createdEq
  rw [if_neg (by simp [pathEq])] at createdEq
  exact isDirectory_of_createChain createdEq

/-- A directory that exists is not created again. -/
theorem createDirectories_of_isDirectory (isDirectory : tree.isDirectory working path = true) :
    ((disk working).createDirectories path).run tree = (.ok (), tree) := by
  have accepted := acceptExisting_run working path .fileExists tree
  unfold Disk.createDirectories
  split
  · rfl
  · unfold Disk.createChain
    rw [run_bind, createDirectory_run, createDirectory_of_isDirectory isDirectory]
    rw [if_pos ⟨rfl, isDirectory⟩] at accepted
    exact accepted

end FileTree
end SchemaClasses
