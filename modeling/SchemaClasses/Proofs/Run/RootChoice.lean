import SchemaClasses.Proofs.Classes.LastDocuments
import SchemaClasses.Proofs.Files.Locations
import SchemaClasses.Proofs.Run.Loading

/-!
# Choice of the root

The root is read first and left out of the files beside it.  Still, whichever schema file of a
directory is the root, a run loads the schema files of the directory, each under its name, or fails
because one of them cannot be loaded.
-/

namespace SchemaClasses
namespace FileTree

open SchemaClasses.Path (IsEntry IsName)

variable {tree : FileTree} {working directory : List String} {root name : String}
  {repository : Repository} {documents others : List (String × Schema.Node)}

/-- A path leads to a schema file of a directory. -/
structure LeadsToSchema (tree : FileTree) (working : List String) (root : String)
    (directory : List String) (name : String) : Prop where
  resolved : tree.resolve working root = .ok (directory ++ [name])
  present : (tree.item? (directory ++ [name])).isSome = true
  isSchema : isSchemaFileName name = true

/-- The documents of the schema files of a directory, under the names of the files. -/
structure HoldsSchemas (tree : FileTree) (working directory : List String)
    (documents : List (String × Schema.Node)) : Prop where
  ordered : KeysIncrease documents
  listed : ∃ names, tree.fileNames working (Path.absolute directory) = .ok names
  names : ∀ name, name ∈ documents.map Prod.fst ↔
    (tree.item? (directory ++ [name])).isSome = true ∧ isSchemaFileName name = true
  read : ∀ entry ∈ documents,
    tree.document working (Path.join (Path.absolute directory) entry.1) = .ok entry.2

theorem repository_eq_ok_iff (entries : ∀ other ∈ directory ++ [name], IsEntry other)
    (resolved : tree.resolve working root = .ok (directory ++ [name])) :
    tree.repository working root = .ok repository ↔
      ∃ document names siblings,
        tree.document working (Path.join (Path.absolute directory) name) = .ok document ∧
          tree.fileNames working (Path.absolute directory) = .ok names ∧
          tree.documents working (Path.absolute directory) (siblingNames name names) =
            .ok siblings ∧
          repository = .ofDocuments name ((name, document) :: siblings) := by
  have areNames : ∀ other ∈ directory ++ [name], IsName other :=
    fun other member => (entries other member).toIsName
  have directoryNames : ∀ other ∈ directory, IsName other :=
    fun other member => areNames other (List.mem_append_left _ member)
  have rootPath : Path.join (Path.absolute directory) name = Path.absolute (directory ++ [name]) :=
    Path.join_absolute directoryNames (areNames name (by simp))
  have pathEq : ((tree.resolve working root).map Path.absolute).mapError (loadFailure root) =
      .ok (Path.absolute (directory ++ [name])) := by
    rw [resolved]
    rfl
  unfold FileTree.repository
  rw [pathEq, rootPath]
  simp only [Steps.bind_eq_ok_iff, Except.ok.injEq, exists_eq_left',
    Path.fileName?_absolute areNames, Path.parent_absolute areNames, Steps.mapError_eq_ok_iff,
    Steps.pure_eq_ok_iff, @eq_comm _ _ repository]
  simp only [exists_and_left]

/-- What is loaded from a root in a directory are the schemas of the directory. -/
theorem holdsSchemas_of_repository (entries : ∀ other ∈ directory ++ [name], IsEntry other)
    (leads : tree.LeadsToSchema working root directory name)
    (loaded : tree.repository working root = .ok repository) :
    repository.root = name ∧ tree.HoldsSchemas working directory repository.documents := by
  obtain ⟨document, names, siblings, rootRead, listed, siblingsRead, rfl⟩ :=
    (repository_eq_ok_iff entries leads.resolved).mp loaded
  have directoryEntries : ∀ other ∈ directory, IsEntry other :=
    fun other member => entries other (List.mem_append_left _ member)
  have siblingKeys : siblings.map Prod.fst = siblingNames name names := by
    have keysEq : siblings.map Prod.fst = (siblingNames name names).map id :=
      map_eq_map_of_related (documents_eq_ok_iff.mp siblingsRead) fun _ _ related => related.1
    rwa [List.map_id] at keysEq
  refine ⟨rfl, Repository.keysIncrease_ofDocuments _ _, ⟨names, listed⟩, ?_, ?_⟩
  · intro other
    rw [Repository.mem_names_ofDocuments_iff, List.map_cons, siblingKeys, List.mem_cons,
      mem_siblingNames_iff, mem_fileNames_iff directoryEntries listed]
    by_cases isRoot : other = name
    · subst isRoot
      simp [leads.present, leads.isSchema]
    · simp [isRoot]
  · intro entry member
    rcases List.mem_cons.mp (Repository.mem_ofDocuments member) with rfl | isSibling
    · exact rootRead
    · exact (mem_documents siblingsRead isSibling).2

/-- If the schemas of a directory can be read, then they can be loaded from any root among them. -/
theorem HoldsSchemas.exists_repository (holds : tree.HoldsSchemas working directory documents)
    (entries : ∀ other ∈ directory ++ [name], IsEntry other)
    (leads : tree.LeadsToSchema working root directory name) :
    ∃ repository, tree.repository working root = .ok repository := by
  have directoryEntries : ∀ other ∈ directory, IsEntry other :=
    fun other member => entries other (List.mem_append_left _ member)
  have readable : ∀ other, (tree.item? (directory ++ [other])).isSome = true →
      isSchemaFileName other = true →
        ∃ entry : String × Schema.Node, entry.1 = other ∧
          tree.document working (Path.join (Path.absolute directory) entry.1) = .ok entry.2 := by
    intro other present isSchema
    obtain ⟨entry, member, keyEq⟩ := List.mem_map.mp ((holds.names other).mpr ⟨present, isSchema⟩)
    exact ⟨entry, keyEq, holds.read entry member⟩
  obtain ⟨names, listed⟩ := holds.listed
  have siblingsReadable : ∀ other ∈ siblingNames name names,
      ∃ entry : String × Schema.Node, entry.1 = other ∧
        tree.document working (Path.join (Path.absolute directory) entry.1) = .ok entry.2 := by
    intro other member
    obtain ⟨inNames, isSchema, -⟩ := mem_siblingNames_iff.mp member
    exact readable other ((mem_fileNames_iff directoryEntries listed).mp inNames) isSchema
  obtain ⟨⟨_, document⟩, rfl, rootRead⟩ := readable name leads.present leads.isSchema
  obtain ⟨siblings, siblingsRead⟩ := exists_related_of_forall siblingsReadable
  exact ⟨_, (repository_eq_ok_iff entries leads.resolved).mpr
    ⟨document, names, siblings, rootRead, listed, documents_eq_ok_iff.mpr siblingsRead, rfl⟩⟩

theorem HoldsSchemas.mem_of_mem (holds : tree.HoldsSchemas working directory documents)
    (othersHold : tree.HoldsSchemas working directory others) {entry : String × Schema.Node}
    (member : entry ∈ documents) : entry ∈ others := by
  have isKey : entry.1 ∈ others.map Prod.fst :=
    (othersHold.names entry.1).mpr ((holds.names entry.1).mp (List.mem_map_of_mem member))
  obtain ⟨other, otherMem, keyEq⟩ := List.mem_map.mp isKey
  have read := holds.read entry member
  rw [← keyEq, othersHold.read other otherMem] at read
  have same : other = entry := Prod.ext keyEq (Except.ok.inj read)
  exact same ▸ otherMem

/-- A directory has only one list of schemas. -/
theorem HoldsSchemas.unique (holds : tree.HoldsSchemas working directory documents)
    (othersHold : tree.HoldsSchemas working directory others) : documents = others :=
  holds.ordered.eq_of_mem_iff othersHold.ordered fun _ =>
    ⟨holds.mem_of_mem othersHold, othersHold.mem_of_mem holds⟩

end FileTree

open FileTree

section Choice

variable {tree : FileTree} {working directory : List String}
  {firstRoot secondRoot firstName secondName : String}

/-- Among the schema files of a directory it does not matter which one is the root: loading succeeds
from all of them or from none, and always gives the same documents and classes. -/
theorem load_from_any_schema (workingEntries : ∀ name ∈ working, Path.IsEntry name)
    (first : tree.LeadsToSchema working firstRoot directory firstName)
    (second : tree.LeadsToSchema working secondRoot directory secondName) :
    ((∃ repository,
        outcome (Repository.load (disk working) firstRoot) tree = (.ok repository, tree)) ↔
      ∃ repository,
        outcome (Repository.load (disk working) secondRoot) tree = (.ok repository, tree)) ∧
    ∀ firstRepository secondRepository,
      outcome (Repository.load (disk working) firstRoot) tree = (.ok firstRepository, tree) →
      outcome (Repository.load (disk working) secondRoot) tree = (.ok secondRepository, tree) →
        firstRepository.root = firstName ∧ secondRepository.root = secondName ∧
          firstRepository.documents = secondRepository.documents ∧
          ∀ namespaceName,
            firstRepository.classes namespaceName = secondRepository.classes namespaceName := by
  have firstEntries := isEntry_of_resolve workingEntries first.resolved
  have secondEntries := isEntry_of_resolve workingEntries second.resolved
  simp only [outcome_load, Prod.mk.injEq, and_true]
  refine ⟨⟨?_, ?_⟩, ?_⟩
  · rintro ⟨repository, loaded⟩
    obtain ⟨-, holds⟩ := holdsSchemas_of_repository firstEntries first loaded
    exact holds.exists_repository secondEntries second
  · rintro ⟨repository, loaded⟩
    obtain ⟨-, holds⟩ := holdsSchemas_of_repository secondEntries second loaded
    exact holds.exists_repository firstEntries first
  · intro firstRepository secondRepository firstLoaded secondLoaded
    obtain ⟨firstRootEq, firstHolds⟩ := holdsSchemas_of_repository firstEntries first firstLoaded
    obtain ⟨secondRootEq, secondHolds⟩ :=
      holdsSchemas_of_repository secondEntries second secondLoaded
    have same := firstHolds.unique secondHolds
    refine ⟨firstRootEq, secondRootEq, same, fun namespaceName => ?_⟩
    unfold Repository.classes Repository.objectDocuments
    rw [same]

end Choice

/-- A directory with two schemas and a file that is none. -/
def drawingSchemas : FileTree :=
  ⟨[(["s"], .directory),
    (["s", "line.schema.json"],
      .file "\x7b\"type\":\"object\",\"title\":\"Line\"\x7d".toUTF8),
    (["s", "notes.txt"], .file "draft".toUTF8),
    (["s", "point.schema.json"], .file "\x7b\"type\":\"object\"\x7d".toUTF8)]⟩

theorem load_drawingSchemas :
    ∃ first second,
      outcome (Repository.load (disk ["s"]) "line.schema.json") drawingSchemas =
          (.ok first, drawingSchemas) ∧
        outcome (Repository.load (disk ["s"]) "../s/point.schema.json") drawingSchemas =
          (.ok second, drawingSchemas) ∧
        first.root = "line.schema.json" ∧ second.root = "point.schema.json" ∧
        first.documents = second.documents ∧
        ∀ namespaceName, first.classes namespaceName = second.classes namespaceName := by
  have properNames : ∀ name ∈ ["s"], Path.IsEntry name := by
    intro name member
    obtain rfl := List.mem_singleton.mp member
    exact ⟨⟨by decide, by decide⟩, by decide, by decide⟩
  have line : drawingSchemas.LeadsToSchema ["s"] "line.schema.json" ["s"] "line.schema.json" :=
    ⟨by decide +kernel, by decide +kernel, by decide +kernel⟩
  have point :
      drawingSchemas.LeadsToSchema ["s"] "../s/point.schema.json" ["s"] "point.schema.json" :=
    ⟨by decide +kernel, by decide +kernel, by decide +kernel⟩
  have loads : (drawingSchemas.repository ["s"] "line.schema.json").isOk = true := by
    decide +kernel
  obtain ⟨sameSuccess, sameContent⟩ := load_from_any_schema properNames line point
  cases loaded : drawingSchemas.repository ["s"] "line.schema.json" with
  | error failure =>
      rw [loaded] at loads
      nomatch loads
  | ok first =>
      have firstLoaded :
          outcome (Repository.load (disk ["s"]) "line.schema.json") drawingSchemas =
            (.ok first, drawingSchemas) := by
        rw [outcome_load, loaded]
      obtain ⟨second, secondLoaded⟩ := sameSuccess.mp ⟨first, firstLoaded⟩
      exact ⟨first, second, firstLoaded, secondLoaded,
        sameContent first second firstLoaded secondLoaded⟩

end SchemaClasses
