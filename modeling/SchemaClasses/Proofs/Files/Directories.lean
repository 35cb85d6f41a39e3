import SchemaClasses.Proofs.Files.Writing

/-!
# Creating directories along a path

Creating a directory may create directories around it.  All of them lie on the way that its path
takes, whether or not the last of them can be created, and nothing else is changed.
-/

namespace SchemaClasses
namespace FileTree

variable {tree before middle after : FileTree} {working start names kept location : List String}
  {path outer : String}

/-- A walk between directories does not go astray at points that are put into it. -/
theorem walk_of_walk_filter
    (walked : tree.walk start (names.filter (· ≠ ".")) = .ok location)
    (isDirectory : tree.item? location = some .directory) :
    tree.walk start names = .ok location := by
  induction names generalizing start with
  | nil => exact walked
  | cons name names ih =>
      by_cases isDot : name = "."
      · have filterEq : (name :: names).filter (· ≠ ".") = names.filter (· ≠ ".") := by simp [isDot]
        rw [filterEq] at walked
        have startDirectory := isDirectory_of_walk walked isDirectory
        have stays : tree.step start name = .ok start :=
          step_eq_ok_iff.mpr ⟨startDirectory, Or.inl ⟨isDot, rfl⟩⟩
        rw [walk_cons, stays]
        exact ih walked
      · have filterEq : (name :: names).filter (· ≠ ".") = name :: names.filter (· ≠ ".") := by
          simp [isDot]
        rw [filterEq, walk_cons] at walked
        obtain ⟨next, stepped, walked⟩ := Steps.bind_eq_ok_iff.mp walked
        rw [walk_cons, stepped]
        exact ih walked

/-- A location is on the way that a path takes. -/
def OnPath (tree : FileTree) (working : List String) (path : String) (location : List String) :
    Prop :=
  ∃ front, front <+: Path.names path ∧ tree.walk (startOf working path) front = .ok location

theorem OnPath.of_directoriesIn (onPath : OnPath before working path location)
    (within : DirectoriesIn before after) (isDirectory : before.item? location = some .directory) :
    OnPath after working path location := by
  obtain ⟨front, isPrefix, walked⟩ := onPath
  exact ⟨front, isPrefix, within.walk walked isDirectory⟩

theorem exists_prefix_of_filter {keeps : String → Bool} (isPrefix : kept <+: names.filter keeps) :
    ∃ front, front <+: names ∧ front.filter keeps = kept := by
  obtain ⟨rest, filterEq⟩ := isPrefix
  obtain ⟨front, back, rfl, frontEq, -⟩ := List.filter_eq_append_iff.mp filterEq.symm
  exact ⟨front, List.prefix_append front back, frontEq⟩

/-- The names that count lead along the path on which they count. -/
theorem onPath_of_significantNames (isPrefix : kept <+: Path.significantNames path)
    (walked : tree.walk (startOf working path) kept = .ok location)
    (isDirectory : tree.item? location = some .directory) :
    OnPath tree working path location := by
  unfold Path.significantNames at isPrefix
  simp only at isPrefix
  split at isPrefix
  · obtain ⟨front, frontPrefix, rfl⟩ := exists_prefix_of_filter isPrefix
    exact ⟨front, frontPrefix, walk_of_walk_filter walked isDirectory⟩
  · generalize namesEq : Path.names path = names at isPrefix
    cases names with
    | nil =>
        obtain rfl := List.prefix_nil.mp isPrefix
        exact ⟨[], List.nil_prefix, walked⟩
    | cons first rest =>
        change kept <+: first :: rest.filter (· ≠ ".") at isPrefix
        rcases List.prefix_cons_iff.mp isPrefix with rfl | ⟨later, rfl, laterPrefix⟩
        · exact ⟨[], List.nil_prefix, walked⟩
        · obtain ⟨front, frontPrefix, rfl⟩ := exists_prefix_of_filter laterPrefix
          rw [walk_cons] at walked
          obtain ⟨next, stepped, walked⟩ := Steps.bind_eq_ok_iff.mp walked
          refine ⟨first :: front, ?_, ?_⟩
          · rw [namesEq]
            exact List.cons_prefix_cons.mpr ⟨rfl, frontPrefix⟩
          · rw [walk_cons, stepped]
            exact walk_of_walk_filter walked isDirectory

/-- A new directory is put where its path leads to afterwards, and nothing was there before. -/
theorem createDirectory_eq_put (created : tree.createDirectory working path = .ok after) :
    ∃ location, location ≠ [] ∧ tree.item? location = none ∧
      after = tree.put location .directory ∧
      after.walk (startOf working path) (Path.names path) = .ok location := by
  unfold createDirectory at created
  obtain ⟨⟨start, names⟩, parted, created⟩ := Steps.bind_eq_ok_iff.mp created
  obtain ⟨rfl, rfl⟩ := openPath_parts parted
  simp only at created
  split at created
  · nomatch created
  · next last lastEq =>
      obtain ⟨location, located, created⟩ := Steps.bind_eq_ok_iff.mp created
      split at created
      · nomatch created
      · next notPoints =>
          split at created
          · nomatch created
          · next missing =>
              obtain rfl := Except.ok.inj created
              obtain ⟨directory, walked, isDirectory, short, rfl⟩ := locateNew_eq_ok_iff.mp located
              have notRoot : directory ++ [last] ≠ [] := by simp
              refine ⟨directory ++ [last], notRoot, missing, rfl, ?_⟩
              have within : DirectoriesIn tree (tree.put (directory ++ [last]) .directory) := by
                intro other otherDirectory
                have otherNe : other ≠ directory ++ [last] := by
                  rintro rfl
                  rw [missing] at otherDirectory
                  nomatch otherDirectory
                rwa [item?_put_of_ne otherNe]
              have stepped : (tree.put (directory ++ [last]) .directory).step directory last =
                  .ok (directory ++ [last]) := by
                refine step_eq_ok_iff.mpr ⟨within directory isDirectory, Or.inr (Or.inr ?_)⟩
                exact ⟨fun isDot => notPoints (Or.inl isDot),
                  fun isDots => notPoints (Or.inr isDots), short,
                  ⟨.directory, item?_put_self notRoot⟩, rfl⟩
              obtain ⟨front, namesEq⟩ := List.getLast?_eq_some_iff.mp lastEq
              rw [namesEq, List.dropLast_concat] at walked
              rw [namesEq, walk_append, within.walk walked isDirectory]
              change walk _ directory [last] = _
              rw [walk_cons, stepped]
              rfl

/-- A tree has the items of another one, and beyond these only directories on the way that a path
takes. -/
def AddsAlong (working : List String) (path : String) (before after : FileTree) : Prop :=
  ∀ location, after.item? location = before.item? location ∨
    (before.item? location = none ∧ after.item? location = some .directory ∧
      OnPath after working path location)

theorem AddsAlong.addsDirectories (adds : AddsAlong working path before after) :
    AddsDirectories before after := by
  intro location
  rcases adds location with kept | ⟨missing, added, -⟩
  · exact Or.inl kept
  · exact Or.inr ⟨missing, added⟩

theorem AddsAlong.refl (working : List String) (path : String) (tree : FileTree) :
    AddsAlong working path tree tree :=
  fun _ => Or.inl rfl

theorem AddsAlong.trans (first : AddsAlong working path before middle)
    (second : AddsAlong working path middle after) : AddsAlong working path before after := by
  intro location
  rcases second location with kept | ⟨missing, added, onPath⟩
  · rcases first location with keptBefore | ⟨missing, added, onPath⟩
    · exact Or.inl (kept.trans keptBefore)
    · have within := second.addsDirectories.directoriesIn
      exact Or.inr ⟨missing, kept.trans added, onPath.of_directoriesIn within added⟩
  · rcases first location with keptBefore | ⟨-, addedBefore, -⟩
    · exact Or.inr ⟨keptBefore.symm.trans missing, added, onPath⟩
    · rw [missing] at addedBefore
      nomatch addedBefore

/-- An action on a tree that does nothing but add directories on the way that a path takes. -/
def OnlyAddsAlong {α : Type} (working : List String) (path : String) (action : StateM FileTree α) :
    Prop :=
  ∀ tree, AddsAlong working path tree (action.run tree).2

section OnlyAddsAlong

variable {α β : Type}

theorem OnlyAddsAlong.pure (value : α) :
    OnlyAddsAlong working path (Pure.pure value : StateM FileTree α) :=
  AddsAlong.refl working path

theorem OnlyAddsAlong.bind {action : StateM FileTree α} {next : α → StateM FileTree β}
    (adds : OnlyAddsAlong working path action)
    (nextAdds : ∀ value, OnlyAddsAlong working path (next value)) :
    OnlyAddsAlong working path (action >>= next) := by
  intro tree
  have first := adds tree
  have second := nextAdds (action.run tree).1 (action.run tree).2
  exact first.trans second

/-- One of the directories that are created for the sake of a path. -/
def Surrounds (outer path : String) : Prop :=
  outer = path ∨
    (Path.names outer <+: Path.significantNames path ∧
      Path.isAbsolute outer = Path.isAbsolute path)

theorem createDirectory_onlyAddsAlong (surrounds : Surrounds outer path) :
    OnlyAddsAlong working path ((disk working).createDirectory outer) := by
  intro tree
  change AddsAlong working path tree
    (change (fun tree => tree.createDirectory working outer) tree).2
  unfold FileTree.change
  split
  · next created createdEq =>
      obtain ⟨location, notRoot, missing, rfl, walked⟩ := createDirectory_eq_put createdEq
      have isDirectory : (tree.put location .directory).item? location = some .directory :=
        item?_put_self notRoot
      intro other
      by_cases same : other = location
      · subst same
        refine Or.inr ⟨missing, isDirectory, ?_⟩
        rcases surrounds with rfl | ⟨isPrefix, absoluteEq⟩
        · exact ⟨_, List.prefix_refl _, walked⟩
        · rw [startOf, absoluteEq] at walked
          exact onPath_of_significantNames isPrefix walked isDirectory
      · exact Or.inl (item?_put_of_ne same)
  · exact AddsAlong.refl working path tree

theorem isDirectory_onlyAddsAlong : OnlyAddsAlong working path ((disk working).isDirectory outer) :=
  AddsAlong.refl working path

theorem acceptExisting_onlyAddsAlong (error : SystemError) :
    OnlyAddsAlong working path ((disk working).acceptExisting outer error) := by
  unfold Disk.acceptExisting
  split
  · apply OnlyAddsAlong.bind
    · exact isDirectory_onlyAddsAlong
    · intro isDirectory
      split
      · exact OnlyAddsAlong.pure _
      · exact OnlyAddsAlong.pure _
  · exact OnlyAddsAlong.pure _

/-- Creating a chain of directories stays on the path, whether or not it gets to the end. -/
theorem createChain_onlyAddsAlong {paths : List String}
    (surround : ∀ outer ∈ paths, Surrounds outer path) :
    OnlyAddsAlong working path ((disk working).createChain paths) := by
  induction paths with
  | nil => exact OnlyAddsAlong.pure _
  | cons first paths ih =>
      have firstSurrounds := surround first List.mem_cons_self
      have restSurround := fun outer member => surround outer (List.mem_cons_of_mem _ member)
      unfold Disk.createChain
      apply OnlyAddsAlong.bind
      · exact createDirectory_onlyAddsAlong firstSurrounds
      · intro attempted
        split
        · exact OnlyAddsAlong.pure _
        · apply OnlyAddsAlong.bind
          · exact ih restSurround
          · intro outerCreated
            split
            · exact OnlyAddsAlong.pure _
            · apply OnlyAddsAlong.bind
              · exact createDirectory_onlyAddsAlong firstSurrounds
              · intro attemptedAgain
                split
                · exact OnlyAddsAlong.pure _
                · exact acceptExisting_onlyAddsAlong _
        · exact acceptExisting_onlyAddsAlong _

theorem createDirectories_onlyAddsAlong (working : List String) (path : String) :
    OnlyAddsAlong working path ((disk working).createDirectories path) := by
  unfold Disk.createDirectories
  split
  · exact OnlyAddsAlong.pure _
  · refine createChain_onlyAddsAlong fun outer member => ?_
    rcases List.mem_cons.mp member with rfl | isOuter
    · exact Or.inl rfl
    · exact Or.inr (Path.exists_prefix_of_mem_ancestors isOuter)

end OnlyAddsAlong

end FileTree

open FileTree

/-- An action on a tree that does nothing but add directories. -/
def OnlyAdds {α : Type} (action : StateM FileTree α) : Prop :=
  ∀ tree, AddsDirectories tree (action.run tree).2

theorem createDirectories_onlyAdds {working : List String} (path : String) :
    OnlyAdds ((disk working).createDirectories path) :=
  fun tree => (createDirectories_onlyAddsAlong working path tree).addsDirectories

end SchemaClasses
