import SchemaClasses.Files.FileTree
import SchemaClasses.Proofs.Entries
import SchemaClasses.Proofs.Files.PathNames
import SchemaClasses.Proofs.Steps
import Mathlib.Tactic.Push

/-!
# Opening files of a tree

Writing a file is opening it, which finds a location, and then putting the content there.  Where a
path opens depends on the directories of the tree alone, so that files written to other locations do
not matter.
-/

namespace SchemaClasses
namespace FileTree

theorem lookup_putItem (location other : List String) (item : FileItem)
    (items : List (List String × FileItem)) :
    (putItem location item items).lookup other =
      if other = location then some item else items.lookup other := by
  induction items with
  | nil => rw [putItem, lookup_cons_entry]
  | cons entry rest ih =>
      obtain ⟨first, old⟩ := entry
      rw [putItem, lookup_cons_entry]
      by_cases isFirst : first = location
      · subst isFirst
        rw [if_pos rfl, lookup_cons_entry]
        by_cases same : other = first
        · rw [if_pos same, if_pos same]
        · rw [if_neg same, if_neg same, if_neg same]
      · rw [if_neg isFirst, lookup_cons_entry, ih]
        by_cases same : other = first
        · subst same
          rw [if_pos rfl, if_pos rfl, if_neg isFirst]
        · rw [if_neg same, if_neg same]

variable {tree before after : FileTree} {working location directory : List String}
  {path file last : String} {content : ByteArray} {item : FileItem}

theorem item?_put_self (notRoot : location ≠ []) :
    (tree.put location item).item? location = some item := by
  cases location with
  | nil => exact absurd rfl notRoot
  | cons name names => simp [item?, put, lookup_putItem]

theorem item?_put_of_ne {other : List String} (otherNe : other ≠ location) :
    (tree.put location item).item? other = tree.item? other := by
  cases other with
  | nil => rfl
  | cons name names => simp [item?, put, lookup_putItem, otherNe]

/-- Every directory of the one tree is a directory of the other. -/
def DirectoriesIn (before after : FileTree) : Prop :=
  ∀ location, before.item? location = some .directory → after.item? location = some .directory

/-- Where a name leads to from a directory. -/
def step (tree : FileTree) (location : List String) (name : String) :
    Except SystemError (List String) :=
  match tree.item? location with
  | none => .error .notFound
  | some (.file _) => .error .notDirectory
  | some .directory =>
      if name = "." then .ok location
      else if name = ".." then .ok location.dropLast
      else if nameLimit < name.utf8ByteSize then .error .nameTooLong
      else
        match tree.item? (location ++ [name]) with
        | none => .error .notFound
        | some _ => .ok (location ++ [name])

theorem walk_cons (tree : FileTree) (location : List String) (name : String)
    (names : List String) :
    tree.walk location (name :: names) =
      tree.step location name >>= fun next => tree.walk next names := by
  rw [walk, step]
  cases tree.item? location with
  | none => rfl
  | some item =>
      cases item with
      | file content => rfl
      | directory =>
          by_cases isDot : name = "."
          · simp only [if_pos isDot]
            rfl
          · by_cases isDots : name = ".."
            · simp only [if_neg isDot, if_pos isDots]
              rfl
            · by_cases tooLong : nameLimit < name.utf8ByteSize
              · simp only [if_neg isDot, if_neg isDots, if_pos tooLong]
                rfl
              · simp only [if_neg isDot, if_neg isDots, if_neg tooLong]
                cases tree.item? (location ++ [name]) <;> rfl

theorem walk_append (tree : FileTree) (location first second : List String) :
    tree.walk location (first ++ second) =
      tree.walk location first >>= fun next => tree.walk next second := by
  induction first generalizing location with
  | nil => rfl
  | cons name names ih =>
      rw [List.cons_append, walk_cons, walk_cons]
      cases tree.step location name with
      | error error => rfl
      | ok next => exact ih next

/-- The last name of a walk is one more step. -/
theorem walk_concat_eq_ok_iff {start front next : List String} :
    tree.walk start (front ++ [last]) = .ok next ↔
      ∃ outer, tree.walk start front = .ok outer ∧ tree.step outer last = .ok next := by
  rw [walk_append, Steps.bind_eq_ok_iff]
  refine exists_congr fun outer => and_congr_right fun _ => ?_
  rw [walk_cons, Steps.bind_eq_ok_iff]
  simp [walk]

/-- A step starts at a directory, and within that directory it stays or leads to an item. -/
theorem step_eq_ok_iff {name : String} {next : List String} :
    tree.step location name = .ok next ↔
      tree.item? location = some .directory ∧
        (name = "." ∧ next = location ∨
          name = ".." ∧ next = location.dropLast ∨
          (name ≠ "." ∧ name ≠ ".." ∧ name.utf8ByteSize ≤ nameLimit ∧
            (∃ item, tree.item? (location ++ [name]) = some item) ∧
              next = location ++ [name])) := by
  unfold step
  cases tree.item? location with
  | none => simp
  | some item =>
      cases item with
      | file content => simp
      | directory =>
          by_cases isDot : name = "."
          · subst isDot
            simp [eq_comm]
          · by_cases isDots : name = ".."
            · subst isDots
              simp [eq_comm]
            · by_cases tooLong : nameLimit < name.utf8ByteSize
              · have notShort : ¬name.utf8ByteSize ≤ nameLimit := by omega
                simp [isDot, isDots, tooLong, notShort]
              · have short : name.utf8ByteSize ≤ nameLimit := by omega
                cases tree.item? (location ++ [name]) with
                | none => simp [isDot, isDots, tooLong]
                | some item => simp [isDot, isDots, tooLong, short, eq_comm]

theorem DirectoriesIn.step {name : String} {next : List String}
    (within : DirectoriesIn before after) (stepped : before.step location name = .ok next)
    (isDirectory : before.item? next = some .directory) :
    after.step location name = .ok next := by
  obtain ⟨startEq, ways⟩ := step_eq_ok_iff.mp stepped
  refine step_eq_ok_iff.mpr ⟨within location startEq, ?_⟩
  rcases ways with here | up | ⟨notDot, notDots, short, -, rfl⟩
  · exact Or.inl here
  · exact Or.inr (Or.inl up)
  · exact Or.inr (Or.inr ⟨notDot, notDots, short, ⟨_, within _ isDirectory⟩, rfl⟩)

theorem isDirectory_of_walk {start names : List String}
    (walked : tree.walk start names = .ok directory)
    (isDirectory : tree.item? directory = some .directory) :
    tree.item? start = some .directory := by
  cases names with
  | nil =>
      obtain rfl := Except.ok.inj walked
      exact isDirectory
  | cons name names =>
      rw [walk_cons] at walked
      obtain ⟨next, stepped, -⟩ := Steps.bind_eq_ok_iff.mp walked
      exact (step_eq_ok_iff.mp stepped).1

/-- A walk to a directory leads through directories only. -/
theorem DirectoriesIn.walk {start names : List String} (within : DirectoriesIn before after)
    (walked : before.walk start names = .ok directory)
    (isDirectory : before.item? directory = some .directory) :
    after.walk start names = .ok directory := by
  induction names generalizing start with
  | nil => exact walked
  | cons name names ih =>
      rw [walk_cons] at walked ⊢
      obtain ⟨next, stepped, walked⟩ := Steps.bind_eq_ok_iff.mp walked
      have nextDirectory := isDirectory_of_walk walked isDirectory
      exact Steps.bind_eq_ok_iff.mpr ⟨next, within.step stepped nextDirectory, ih walked⟩

/-- The location at which a path is opened for writing. -/
def openFile (tree : FileTree) (working : List String) (path : String) :
    Except SystemError (List String) := do
  let (start, names) ← openPath working path
  match names.getLast? with
  | none => .error .isDirectory
  | some last =>
      let location ← tree.locateNew start names.dropLast last
      if Path.isClosed path ∨ last = "." ∨ last = ".." then .error .isDirectory
      else
        match tree.item? location with
        | some .directory => .error .isDirectory
        | _ => .ok location

theorem writeFile_eq (tree : FileTree) (working : List String) (path : String)
    (content : ByteArray) :
    tree.writeFile working path content =
      (tree.openFile working path).map fun location => tree.put location (.file content) := by
  unfold writeFile openFile
  cases openPath working path with
  | error error => rfl
  | ok parts =>
      obtain ⟨start, names⟩ := parts
      simp only [bind, Except.bind]
      cases names.getLast? with
      | none => rfl
      | some last =>
          simp only
          cases tree.locateNew start names.dropLast last with
          | error error => rfl
          | ok location =>
              simp only
              by_cases closed : Path.isClosed path ∨ last = "." ∨ last = ".."
              · rw [if_pos closed, if_pos closed]
                rfl
              · rw [if_neg closed, if_neg closed]
                cases tree.item? location with
                | none => rfl
                | some item => cases item <;> rfl

theorem locateNew_eq_ok_iff {start names : List String} :
    tree.locateNew start names last = .ok location ↔
      ∃ directory, tree.walk start names = .ok directory ∧
        tree.item? directory = some .directory ∧ last.utf8ByteSize ≤ nameLimit ∧
        location = directory ++ [last] := by
  unfold locateNew
  rw [Steps.bind_eq_ok_iff]
  refine exists_congr fun directory => and_congr_right fun _ => ?_
  split
  · next isDirectory =>
      split
      · next tooLong =>
          have notShort : ¬last.utf8ByteSize ≤ nameLimit := by omega
          simp [notShort]
      · next short =>
          have isShort : last.utf8ByteSize ≤ nameLimit := by omega
          simp [isDirectory, isShort, eq_comm]
  · next notDirectory =>
      constructor
      · intro located
        nomatch located
      · rintro ⟨isDirectory, -⟩
        exact absurd isDirectory notDirectory

/-- How a path opens: its last name is put into the directory that the names before it lead to. -/
structure OpensAt (tree : FileTree) (working : List String) (path : String)
    (directory : List String) (last : String) : Prop where
  parts : ∃ start names, openPath working path = .ok (start, names) ∧
    names.getLast? = some last ∧ tree.walk start names.dropLast = .ok directory
  isDirectory : tree.item? directory = some .directory
  short : last.utf8ByteSize ≤ nameLimit
  notClosed : Path.isClosed path = false
  notDot : last ≠ "."
  notDots : last ≠ ".."
  free : tree.item? (directory ++ [last]) ≠ some .directory

theorem openFile_eq_ok_iff :
    tree.openFile working path = .ok location ↔
      ∃ directory last, tree.OpensAt working path directory last ∧
        location = directory ++ [last] := by
  unfold openFile
  simp only [Steps.bind_eq_ok_iff, Prod.exists]
  constructor
  · rintro ⟨start, names, partsEq, opened⟩
    split at opened
    · nomatch opened
    · next last lastEq =>
        obtain ⟨target, located, opened⟩ := Steps.bind_eq_ok_iff.mp opened
        obtain ⟨directory, walked, isDirectory, short, rfl⟩ := locateNew_eq_ok_iff.mp located
        split at opened
        · nomatch opened
        · next named =>
            push Not at named
            split at opened
            · nomatch opened
            · next free =>
                obtain rfl := Except.ok.inj opened
                refine ⟨directory, last, ⟨⟨start, names, partsEq, lastEq, walked⟩, isDirectory,
                  short, by simpa using named.1, named.2.1, named.2.2, free⟩, rfl⟩
  · rintro ⟨directory, last, opens, rfl⟩
    obtain ⟨start, names, partsEq, lastEq, walked⟩ := opens.parts
    refine ⟨start, names, partsEq, ?_⟩
    simp only [lastEq]
    refine Steps.bind_eq_ok_iff.mpr ⟨directory ++ [last], ?_, ?_⟩
    · exact locateNew_eq_ok_iff.mpr ⟨directory, walked, opens.isDirectory, opens.short, rfl⟩
    · rw [if_neg (by simp [opens.notClosed, opens.notDot, opens.notDots])]
      split
      · next isDirectory => exact absurd isDirectory opens.free
      · rfl

end FileTree
end SchemaClasses
