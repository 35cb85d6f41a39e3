import SchemaClasses.Proofs.Files.Writing

/-!
# Locations of items

A path resolves to a location of names that items can have.  The absolute path of such a location
leads back to it, and the listing of a directory has the names of all items in it.
-/

namespace SchemaClasses

/-- The names that items of a directory can have. -/
structure Path.IsEntry (name : String) : Prop extends Path.IsName name where
  notDot : name ≠ "."
  notDots : name ≠ ".."

namespace FileTree

open SchemaClasses.Path (IsEntry IsName)

variable {tree : FileTree} {working start names location directory : List String}
  {path name : String}

theorem isEntry_of_walk (startEntries : ∀ name ∈ start, IsEntry name)
    (areNames : ∀ name ∈ names, IsName name) (walked : tree.walk start names = .ok location) :
    ∀ name ∈ location, IsEntry name := by
  induction names generalizing start with
  | nil =>
      obtain rfl := Except.ok.inj walked
      exact startEntries
  | cons first rest ih =>
      rw [walk_cons] at walked
      obtain ⟨next, stepped, walked⟩ := Steps.bind_eq_ok_iff.mp walked
      have restAreNames : ∀ name ∈ rest, IsName name :=
        fun name member => areNames name (List.mem_cons_of_mem _ member)
      refine ih ?_ restAreNames walked
      rcases (step_eq_ok_iff.mp stepped).2 with
        ⟨-, rfl⟩ | ⟨-, rfl⟩ | ⟨notDot, notDots, -, -, rfl⟩
      · exact startEntries
      · exact fun name member => startEntries name (List.dropLast_subset _ member)
      · intro name member
        rcases List.mem_append.mp member with inStart | isFirst
        · exact startEntries name inStart
        · obtain rfl := List.mem_singleton.mp isFirst
          exact ⟨areNames name List.mem_cons_self, notDot, notDots⟩

theorem isEntry_startOf (workingEntries : ∀ name ∈ working, IsEntry name) :
    ∀ name ∈ startOf working path, IsEntry name := by
  unfold startOf
  split
  · exact fun name inNone => nomatch inNone
  · exact workingEntries

/-- A path that is followed from proper names leads to proper names. -/
theorem isEntry_of_resolve (workingEntries : ∀ name ∈ working, IsEntry name)
    (resolved : tree.resolve working path = .ok location) : ∀ name ∈ location, IsEntry name := by
  obtain ⟨⟨start, names⟩, partsEq, followed⟩ := Steps.bind_eq_ok_iff.mp resolved
  obtain ⟨rfl, rfl⟩ := splitPath_parts partsEq
  have dotIsName : IsName "." := ⟨by decide, by decide⟩
  refine isEntry_of_walk (isEntry_startOf workingEntries) ?_ followed
  intro name member
  split at member
  · rcases List.mem_append.mp member with inPath | isDot
    · exact Path.isName_of_mem_names inPath
    · exact List.mem_singleton.mp isDot ▸ dotIsName
  · exact Path.isName_of_mem_names member

/-- A walk that never goes up ends where its names say. -/
theorem walk_eq_append (noDots : ∀ name ∈ names, name ≠ "..")
    (walked : tree.walk start names = .ok location) :
    location = start ++ names.filter (· ≠ ".") := by
  induction names generalizing start with
  | nil =>
      obtain rfl := Except.ok.inj walked
      rw [List.filter_nil, List.append_nil]
  | cons first rest ih =>
      rw [walk_cons] at walked
      obtain ⟨next, stepped, walked⟩ := Steps.bind_eq_ok_iff.mp walked
      have restNoDots : ∀ name ∈ rest, name ≠ ".." :=
        fun name member => noDots name (List.mem_cons_of_mem _ member)
      rw [ih restNoDots walked]
      rcases (step_eq_ok_iff.mp stepped).2 with
        ⟨rfl, rfl⟩ | ⟨isDots, -⟩ | ⟨notDot, -, -, -, rfl⟩
      · simp
      · exact absurd isDots (noDots first List.mem_cons_self)
      · simp [notDot]

theorem locate_absolute (entries : ∀ name ∈ directory, IsEntry name)
    (located : tree.locate working (Path.absolute directory) = .ok location) :
    location = directory := by
  obtain ⟨⟨start, names⟩, partsEq, followed⟩ := Steps.bind_eq_ok_iff.mp located
  obtain ⟨rfl, rfl⟩ := openPath_parts partsEq
  have isAbsolute : Path.isAbsolute (Path.absolute directory) = true := by
    simp [Path.isAbsolute, Path.absolute]
  have noDot : directory.filter (· ≠ ".") = directory :=
    List.filter_eq_self.mpr fun name member => by simpa using (entries name member).notDot
  change tree.walk (startOf working (Path.absolute directory)) _ = _ at followed
  rw [startOf, isAbsolute, if_pos rfl,
    Path.names_absolute fun name member => (entries name member).toIsName] at followed
  split at followed
  · rw [walk_eq_append _ followed, List.nil_append, List.filter_append, noDot]
    · simp
    · intro name member
      rcases List.mem_append.mp member with inDirectory | isDot
      · exact (entries name inDirectory).notDots
      · exact List.mem_singleton.mp isDot ▸ by decide
  · rw [walk_eq_append (fun name member => (entries name member).notDots) followed,
      List.nil_append, noDot]

theorem item?_concat_isSome_iff :
    (tree.item? (directory ++ [name])).isSome = true ↔
      ∃ item, (directory ++ [name], item) ∈ tree.items := by
  have lookupEq : tree.item? (directory ++ [name]) = tree.items.lookup (directory ++ [name]) := by
    cases directory <;> rfl
  rw [lookupEq, List.lookup_isSome_iff]
  simp [@eq_comm _ (directory ++ [name])]

theorem nameIn?_eq_some_iff : nameIn? directory location = some name ↔
    location = directory ++ [name] := by
  rcases List.eq_nil_or_concat location with rfl | ⟨front, last, rfl⟩
  · simp [nameIn?]
  · rw [List.concat_eq_append, nameIn?, List.getLast?_concat, List.dropLast_concat]
    simp only [Option.ite_none_right_eq_some, Option.some.injEq]
    constructor
    · rintro ⟨rfl, rfl⟩
      rfl
    · intro same
      obtain ⟨frontEq, lastEq⟩ := List.append_inj' same rfl
      exact ⟨frontEq, (List.cons.inj lastEq).1⟩

/-- The names in a directory are those of the items that are there. -/
theorem mem_fileNames_iff (entries : ∀ name ∈ directory, IsEntry name)
    (listed : tree.fileNames working (Path.absolute directory) = .ok names) :
    name ∈ names ↔ (tree.item? (directory ++ [name])).isSome = true := by
  obtain ⟨location, located, read⟩ := Steps.bind_eq_ok_iff.mp listed
  obtain rfl := locate_absolute entries located
  split at read
  · obtain rfl := Except.ok.inj read
    rw [item?_concat_isSome_iff, List.mem_filterMap]
    constructor
    · rintro ⟨⟨place, item⟩, member, named⟩
      exact ⟨item, nameIn?_eq_some_iff.mp named ▸ member⟩
    · rintro ⟨item, member⟩
      exact ⟨_, member, nameIn?_eq_some_iff.mpr rfl⟩
  · nomatch read

end FileTree
end SchemaClasses
