import SchemaClasses.Proofs.Files.Opening

/-!
# Writing to a tree

A written file can be found again, and every other file stays as it is.  Neither the directories nor
the locations at which paths open are changed by writing files.
-/

namespace SchemaClasses
namespace FileTree

variable {tree before middle after : FileTree} {working location : List String}
  {path output name : String} {content : ByteArray}

/-- Two trees have the same directories. -/
def SameDirectories (before after : FileTree) : Prop :=
  ∀ location, before.item? location = some .directory ↔ after.item? location = some .directory

theorem SameDirectories.refl (tree : FileTree) : SameDirectories tree tree :=
  fun _ => Iff.rfl

theorem SameDirectories.trans (first : SameDirectories before middle)
    (second : SameDirectories middle after) : SameDirectories before after :=
  fun location => (first location).trans (second location)

theorem SameDirectories.symm (same : SameDirectories before after) :
    SameDirectories after before :=
  fun location => (same location).symm

theorem SameDirectories.openFile (same : SameDirectories before after)
    (opened : before.openFile working path = .ok location) :
    after.openFile working path = .ok location := by
  obtain ⟨directory, last, opens, rfl⟩ := openFile_eq_ok_iff.mp opened
  obtain ⟨start, names, partsEq, lastEq, walked⟩ := opens.parts
  have within : DirectoriesIn before after := fun location => (same location).mp
  have walkedAfter := within.walk walked opens.isDirectory
  refine openFile_eq_ok_iff.mpr ⟨directory, last, ?_, rfl⟩
  exact {
    parts := ⟨start, names, partsEq, lastEq, walkedAfter⟩
    isDirectory := within directory opens.isDirectory
    short := opens.short
    notClosed := opens.notClosed
    notDot := opens.notDot
    notDots := opens.notDots
    free := fun isDirectory => opens.free ((same _).mpr isDirectory) }

/-- Paths open at the same locations in trees with the same directories. -/
theorem SameDirectories.openFile_iff (same : SameDirectories before after) :
    before.openFile working path = .ok location ↔ after.openFile working path = .ok location :=
  ⟨same.openFile, same.symm.openFile⟩

theorem openFile_ne_root (opened : tree.openFile working path = .ok location) :
    location ≠ [] := by
  obtain ⟨directory, last, -, rfl⟩ := openFile_eq_ok_iff.mp opened
  simp

theorem put_sameDirectories (opened : tree.openFile working path = .ok location)
    (content : ByteArray) : SameDirectories tree (tree.put location (.file content)) := by
  have notRoot := openFile_ne_root opened
  obtain ⟨directory, last, opens, locationEq⟩ := openFile_eq_ok_iff.mp opened
  intro other
  by_cases same : other = location
  · subst same
    rw [item?_put_self notRoot, locationEq]
    simp [opens.free]
  · rw [item?_put_of_ne same]

/-- Where the names in a path are followed from. -/
def startOf (working : List String) (path : String) : List String :=
  if Path.isAbsolute path then [] else working

theorem splitPath_parts {start names : List String}
    (parted : splitPath working path = .ok (start, names)) :
    start = startOf working path ∧ names = Path.names path := by
  unfold splitPath at parted
  split at parted
  · nomatch parted
  · split at parted
    · nomatch parted
    · obtain ⟨startEq, namesEq⟩ := Prod.mk.inj (Except.ok.inj parted)
      exact ⟨startEq.symm, namesEq.symm⟩

theorem openPath_parts {start names : List String}
    (parted : openPath working path = .ok (start, names)) :
    start = startOf working path ∧ names = Path.names path := by
  obtain ⟨parts, partsEq, opened⟩ := Steps.bind_eq_ok_iff.mp parted
  split at opened
  · nomatch opened
  · obtain rfl := Except.ok.inj opened
    exact splitPath_parts partsEq

/-- A file that has been opened and has an item is located there. -/
theorem locate_of_openFile {item : FileItem} (opened : tree.openFile working path = .ok location)
    (itemEq : tree.item? location = some item) :
    tree.locate working path = .ok location := by
  obtain ⟨directory, last, opens, rfl⟩ := openFile_eq_ok_iff.mp opened
  obtain ⟨start, names, partsEq, lastEq, walked⟩ := opens.parts
  obtain ⟨front, namesEq⟩ := List.getLast?_eq_some_iff.mp lastEq
  subst namesEq
  rw [List.dropLast_concat] at walked
  have stepped : tree.step directory last = .ok (directory ++ [last]) :=
    step_eq_ok_iff.mpr ⟨opens.isDirectory,
      Or.inr (Or.inr ⟨opens.notDot, opens.notDots, opens.short, ⟨item, itemEq⟩, rfl⟩)⟩
  refine Steps.bind_eq_ok_iff.mpr ⟨(start, front ++ [last]), partsEq, ?_⟩
  change tree.follow path start (front ++ [last]) = _
  rw [follow, opens.notClosed, if_neg (by decide), walk_append, walked]
  change tree.walk directory [last] = _
  rw [walk_cons, stepped]
  rfl

/-- A file in an output directory is put there under its own name. -/
theorem openFile_join (isName : Path.IsName name)
    (opened : tree.openFile working (Path.join output name) = .ok location) :
    ∃ directory, tree.walk (startOf working output) (Path.names output) = .ok directory ∧
      location = directory ++ [name] := by
  obtain ⟨directory, last, opens, rfl⟩ := openFile_eq_ok_iff.mp opened
  obtain ⟨start, names, partsEq, lastEq, walked⟩ := opens.parts
  obtain ⟨rfl, rfl⟩ := openPath_parts partsEq
  rw [Path.names_join output isName] at lastEq walked
  rw [startOf, Path.isAbsolute_join output isName, List.dropLast_concat] at walked
  rw [List.getLast?_concat] at lastEq
  obtain rfl := Option.some.inj lastEq
  exact ⟨directory, walked, rfl⟩

/-- Files with different names in one directory have different locations. -/
theorem openFile_join_injective {other : String} (isName : Path.IsName name)
    (otherIsName : Path.IsName other)
    (opened : tree.openFile working (Path.join output name) = .ok location)
    (otherOpened : tree.openFile working (Path.join output other) = .ok location) :
    name = other := by
  obtain ⟨directory, walked, rfl⟩ := openFile_join isName opened
  obtain ⟨otherDirectory, otherWalked, locationEq⟩ := openFile_join otherIsName otherOpened
  obtain rfl := Except.ok.inj (walked.symm.trans otherWalked)
  simpa using locationEq

/-- A tree has the items of another one, and beyond these only directories. -/
def AddsDirectories (before after : FileTree) : Prop :=
  ∀ location, after.item? location = before.item? location ∨
    (before.item? location = none ∧ after.item? location = some .directory)

theorem AddsDirectories.directoriesIn (adds : AddsDirectories before after) :
    DirectoriesIn before after := by
  intro location isDirectory
  rcases adds location with kept | ⟨missing, -⟩
  · exact kept.trans isDirectory
  · rw [missing] at isDirectory
    nomatch isDirectory

theorem AddsDirectories.file_iff (adds : AddsDirectories before after) :
    after.item? location = some (.file content) ↔
      before.item? location = some (.file content) := by
  rcases adds location with kept | ⟨missing, added⟩
  · rw [kept]
  · simp [missing, added]

end FileTree
end SchemaClasses
