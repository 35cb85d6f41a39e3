import SchemaClasses.Proofs.Files.Extension
import SchemaClasses.Proofs.Run.RootChoice

/-!
# Loading from a tree that has grown

A tree may get new files and directories between two runs.  As long as no schema file is replaced
and nothing new has the name of a schema file in the directory of the root, the second run loads
what the first one has loaded.
-/

namespace SchemaClasses
namespace FileTree

variable {tree before after : FileTree} {working directory location : List String}
  {root path name : String} {documents : List (String × Schema.Node)} {node : Schema.Node}
  {repository : Repository}

/-- A path whose last name is that of a schema file leads to an item of this name. -/
theorem exists_directory_of_follow {start names : List String} (lastEq : names.getLast? = some name)
    (isSchema : isSchemaFileName name = true)
    (followed : tree.follow path start names = .ok location) :
    ∃ directory, location = directory ++ [name] ∧ (tree.item? location).isSome = true := by
  have walked := walk_of_follow followed
  obtain ⟨front, rfl⟩ := List.getLast?_eq_some_iff.mp lastEq
  obtain ⟨directory, -, stepped⟩ := walk_concat_eq_ok_iff.mp walked
  rcases (step_eq_ok_iff.mp stepped).2 with ⟨rfl, -⟩ | ⟨rfl, -⟩ | ⟨-, -, -, isPresent, rfl⟩
  · exact absurd isSchema (by decide)
  · exact absurd isSchema (by decide)
  · exact ⟨directory, rfl, Option.isSome_iff_exists.mpr isPresent⟩

theorem exists_resolve_of_repository (loaded : tree.repository working root = .ok repository) :
    ∃ location, tree.resolve working root = .ok location := by
  unfold FileTree.repository at loaded
  obtain ⟨path, resolved, -⟩ := Steps.bind_eq_ok_iff.mp loaded
  obtain ⟨location, resolvedEq, -⟩ := Steps.map_eq_ok_iff.mp (Steps.mapError_eq_ok_iff.mp resolved)
  exact ⟨location, resolvedEq⟩

theorem exists_leadsToSchema (rootNamed : Path.fileName? root = some name)
    (isSchema : isSchemaFileName name = true)
    (resolved : tree.resolve working root = .ok location) :
    ∃ directory, tree.LeadsToSchema working root directory name := by
  obtain ⟨⟨start, names⟩, partsEq, followed⟩ := Steps.bind_eq_ok_iff.mp resolved
  obtain ⟨-, rfl⟩ := splitPath_parts partsEq
  obtain ⟨directory, rfl, isPresent⟩ := exists_directory_of_follow rootNamed isSchema followed
  exact ⟨directory, resolved, isPresent, isSchema⟩

/-- The path of a file with the name of a schema leads to such a file, wherever it is. -/
theorem exists_schema_of_locate (isSchema : isSchemaFileName name = true)
    (located : tree.locate working (Path.join path name) = .ok location) :
    ∃ directory last, location = directory ++ [last] ∧ isSchemaFileName last = true := by
  have schemaEnding : Path.IsName ".schema.json" := ⟨by decide, by decide⟩
  have pathEnds := Path.endsWith_join path (List.isSuffixOf_iff_suffix.mp isSchema)
  obtain ⟨last, lastEq, lastEnds⟩ := Path.exists_getLast?_names schemaEnding pathEnds
  have lastIsSchema : isSchemaFileName last = true := List.isSuffixOf_iff_suffix.mpr lastEnds
  obtain ⟨⟨start, names⟩, partsEq, followed⟩ := Steps.bind_eq_ok_iff.mp located
  obtain ⟨-, rfl⟩ := openPath_parts partsEq
  obtain ⟨directory, rfl, -⟩ := exists_directory_of_follow lastEq lastIsSchema followed
  exact ⟨directory, last, rfl, lastIsSchema⟩

/-- A document is read from a file. -/
theorem locate_of_document (read : tree.document working path = .ok node) :
    ∃ location content, tree.locate working path = .ok location ∧
      tree.item? location = some (.file content) := by
  obtain ⟨text, readEq, -⟩ := document_eq_ok_iff.mp read
  obtain ⟨location, located, readEq⟩ := Steps.bind_eq_ok_iff.mp readEq
  split at readEq
  · next content itemEq => exact ⟨location, content, located, itemEq⟩
  · nomatch readEq

/-- One tree extends another, and under the names of schema files it has no items beyond those of
the other but directories. -/
structure ExtendsAroundSchemas (before after : FileTree) : Prop where
  extension : Extends before after
  schemas : ∀ directory name, isSchemaFileName name = true →
    after.item? (directory ++ [name]) = before.item? (directory ++ [name]) ∨
      (before.item? (directory ++ [name]) = none ∧
        after.item? (directory ++ [name]) = some .directory)

/-- A directory that has come to be under the name of a schema file. -/
structure AddsSchemaDirectory (directory : List String) (before after : FileTree) (name : String) :
    Prop where
  isSchema : isSchemaFileName name = true
  missing : before.item? (directory ++ [name]) = none
  isDirectory : after.item? (directory ++ [name]) = some .directory

namespace ExtendsAroundSchemas

/-- The document in a schema file can be read again. -/
theorem document (around : ExtendsAroundSchemas before after)
    (isSchema : isSchemaFileName name = true)
    (read : before.document working (Path.join path name) = .ok node) :
    after.document working (Path.join path name) = .ok node := by
  obtain ⟨location, content, located, itemEq⟩ := locate_of_document read
  have locatedAfter := around.extension.locate located
  have itemAfter : after.item? location = before.item? location := by
    obtain ⟨directory, last, rfl, lastIsSchema⟩ := exists_schema_of_locate isSchema located
    rcases around.schemas directory last lastIsSchema with kept | ⟨missing, -⟩
    · exact kept
    · rw [missing] at itemEq
      nomatch itemEq
  have textEq : after.readText working (Path.join path name) =
      before.readText working (Path.join path name) := by
    simp only [readText, located, locatedAfter, bind, Except.bind, itemAfter]
  unfold FileTree.document at read ⊢
  rwa [textEq]

theorem leadsToSchema (around : ExtendsAroundSchemas before after)
    (leads : before.LeadsToSchema working root directory name) :
    after.LeadsToSchema working root directory name :=
  ⟨around.extension.resolve leads.resolved, around.extension.present _ leads.present,
    leads.isSchema⟩

theorem holdsSchemas (around : ExtendsAroundSchemas before after)
    (noneAdded : ∀ name, ¬AddsSchemaDirectory directory before after name)
    (holds : before.HoldsSchemas working directory documents) :
    after.HoldsSchemas working directory documents where
  ordered := holds.ordered
  listed :=
    exists_fileNames_iff.mpr (around.extension.isDirectory (exists_fileNames_iff.mp holds.listed))
  names other := by
    rw [holds.names other]
    refine and_congr_left fun isSchema => ?_
    rcases around.schemas directory other isSchema with kept | ⟨missing, added⟩
    · rw [kept]
    · exact absurd ⟨isSchema, missing, added⟩ (noneAdded other)
  read entry member := by
    obtain ⟨-, isSchema⟩ := (holds.names entry.1).mp (List.mem_map_of_mem member)
    exact around.document isSchema (holds.read entry member)

/-- The same repository is loaded again, unless a directory has got the name of a schema file. -/
theorem repository_eq_ok (around : ExtendsAroundSchemas before after)
    (entries : ∀ other ∈ directory ++ [name], Path.IsEntry other)
    (leads : before.LeadsToSchema working root directory name)
    (noneAdded : ∀ name, ¬AddsSchemaDirectory directory before after name)
    (loaded : before.repository working root = .ok repository) :
    after.repository working root = .ok repository := by
  obtain ⟨rootEq, holds⟩ := holdsSchemas_of_repository entries leads loaded
  have holdsAfter := around.holdsSchemas noneAdded holds
  have leadsAfter := around.leadsToSchema leads
  obtain ⟨again, loadedAgain⟩ := holdsAfter.exists_repository entries leadsAfter
  obtain ⟨againRootEq, againHolds⟩ := holdsSchemas_of_repository entries leadsAfter loadedAgain
  have same : again = repository := by
    cases again
    cases repository
    exact congr (congrArg Repository.mk (againRootEq.trans rootEq.symm))
      (againHolds.unique holdsAfter)
  rw [loadedAgain, same]

/-- Nothing can be loaded while a directory has the name of a schema file. -/
theorem not_loaded (around : ExtendsAroundSchemas before after)
    (entries : ∀ other ∈ directory ++ [name], Path.IsEntry other)
    (leads : before.LeadsToSchema working root directory name) {added : String}
    (addedEntry : Path.IsEntry added) (adds : AddsSchemaDirectory directory before after added) :
    after.repository working root ≠ .ok repository := by
  intro loaded
  obtain ⟨isSchema, -, isDirectory⟩ := adds
  obtain ⟨-, holds⟩ := holdsSchemas_of_repository entries (around.leadsToSchema leads) loaded
  have present : (after.item? (directory ++ [added])).isSome = true := by
    rw [isDirectory]
    rfl
  obtain ⟨⟨key, document⟩, member, rfl⟩ :=
    List.mem_map.mp ((holds.names added).mpr ⟨present, isSchema⟩)
  obtain ⟨location, content, located, itemEq⟩ := locate_of_document (holds.read _ member)
  have directoryEntries : ∀ other ∈ directory, Path.IsEntry other :=
    fun other inDirectory => entries other (List.mem_append_left _ inDirectory)
  have childEntries : ∀ other ∈ directory ++ [key], Path.IsEntry other := by
    intro other inChild
    rcases List.mem_append.mp inChild with inDirectory | isKey
    · exact directoryEntries other inDirectory
    · exact List.mem_singleton.mp isKey ▸ addedEntry
  rw [Path.join_absolute (fun other inDirectory => (directoryEntries other inDirectory).toIsName)
    addedEntry.toIsName] at located
  obtain rfl := locate_absolute childEntries located
  rw [isDirectory] at itemEq
  nomatch itemEq

end ExtendsAroundSchemas
end FileTree
end SchemaClasses
