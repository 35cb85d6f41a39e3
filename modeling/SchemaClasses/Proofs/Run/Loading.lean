import SchemaClasses.Proofs.Classes.Repository
import SchemaClasses.Proofs.Pairing
import SchemaClasses.Proofs.Run.Outcome
import SchemaClasses.Proofs.Steps

/-!
# Loading from a tree

Loading a repository reads the tree and does not change it.  What is loaded is a function of the
tree, and every document comes from the text of the file with its name.
-/

namespace SchemaClasses
namespace FileTree

variable (tree : FileTree) (working : List String)

/-- The document in a file of the tree. -/
def document (path : String) : Except Failure Schema.Node := do
  let text ← (tree.readText working path).mapError (loadFailure path)
  readDocument path text

/-- The documents in files of a directory of the tree, with the names of the files. -/
def documents (directory : String) (names : List String) :
    Except Failure (List (String × Schema.Node)) :=
  names.mapM fun name => (tree.document working (Path.join directory name)).map (name, ·)

/-- The repository that a run with the given root schema loads from the tree. -/
def repository (root : String) : Except Failure Repository := do
  let path ← ((tree.resolve working root).map Path.absolute).mapError (loadFailure root)
  match Path.fileName? path with
  | none => .error (.load path .noFileName)
  | some rootName =>
      let document ← tree.document working path
      let names ← (tree.fileNames working (Path.parent path)).mapError
        (loadFailure (Path.parent path))
      let siblings ← tree.documents working (Path.parent path) (siblingNames rootName names)
      return .ofDocuments rootName ((rootName, document) :: siblings)

variable {tree working}

theorem loadDocument_reads (path : String) :
    Reads (loadDocument (disk working) path) fun tree => tree.document working path := by
  apply Reads.bind
  · exact Reads.attempt fun tree => rfl
  · intro text
    exact Reads.mk_pure (readDocument path text)

theorem loadDocuments_reads (directory : String) (names : List String) :
    Reads (loadDocuments (disk working) directory names) fun tree =>
      tree.documents working directory names := by
  induction names with
  | nil => exact Reads.pure []
  | cons name names ih =>
      intro tree
      have whole : Reads (loadDocuments (disk working) directory (name :: names)) fun tree => do
          let document ← tree.document working (Path.join directory name)
          let rest ← tree.documents working directory names
          return (name, document) :: rest := by
        apply Reads.bind
        · exact loadDocument_reads (Path.join directory name)
        · intro document
          apply Reads.bind
          · exact ih
          · intro rest
            exact Reads.pure ((name, document) :: rest)
      rw [whole tree]
      simp only [documents, List.mapM_cons]
      cases tree.document working (Path.join directory name) <;> rfl

/-- Loading reads the tree and does nothing else. -/
theorem load_reads (root : String) :
    Reads (Repository.load (disk working) root) fun tree => tree.repository working root := by
  unfold Repository.load repository
  apply Reads.bind
  · exact Reads.attempt fun tree => rfl
  · intro path
    cases Path.fileName? path with
    | none => exact Reads.throw _
    | some rootName =>
        apply Reads.bind
        · exact loadDocument_reads path
        · intro document
          apply Reads.bind
          · exact Reads.attempt fun tree => rfl
          · intro names
            apply Reads.bind
            · exact loadDocuments_reads _ _
            · intro siblings
              exact Reads.pure _

theorem outcome_load (root : String) (tree : FileTree) :
    outcome (Repository.load (disk working) root) tree = (tree.repository working root, tree) :=
  load_reads root tree

theorem repository_of_outcome_load {root : String} {repository : Repository} {after : FileTree}
    (loaded : outcome (Repository.load (disk working) root) tree = (.ok repository, after)) :
    tree.repository working root = .ok repository := by
  rw [outcome_load] at loaded
  exact congrArg Prod.fst loaded

/-- The path of a document beside a root whose absolute path is given.  The root itself is read by
that path, whatever its name. -/
def documentPath (rootPath name : String) : String :=
  if Path.fileName? rootPath = some name then rootPath
  else Path.join (Path.parent rootPath) name

/-- The text from which a run with the given root reads the document with a file name. -/
def documentText (tree : FileTree) (working : List String) (root name : String) :
    Except SystemError String := do
  let location ← tree.resolve working root
  tree.readText working (documentPath (Path.absolute location) name)

theorem documentText_eq {root name path : String} {location : List String}
    (resolved : tree.resolve working root = .ok location)
    (pathEq : documentPath (Path.absolute location) name = path) :
    tree.documentText working root name = tree.readText working path := by
  rw [documentText, resolved, ← pathEq]
  rfl

theorem document_eq_ok_iff {path : String} {node : Schema.Node} :
    tree.document working path = .ok node ↔
      ∃ text, tree.readText working path = .ok text ∧ Schema.Node.ofDocument text = .ok node := by
  simp only [document, Steps.bind_eq_ok_iff, Steps.mapError_eq_ok_iff, readDocument]

/-- The documents in files of a directory are read one by one. -/
theorem documents_eq_ok_iff {directory : String} {names : List String}
    {entries : List (String × Schema.Node)} :
    tree.documents working directory names = .ok entries ↔
      List.Forall₂
        (fun name entry => entry.1 = name ∧
          tree.document working (Path.join directory entry.1) = .ok entry.2)
        names entries := by
  have step_iff : ∀ (name : String) (entry : String × Schema.Node),
      (tree.document working (Path.join directory name)).map (name, ·) = .ok entry ↔
        entry.1 = name ∧ tree.document working (Path.join directory entry.1) = .ok entry.2 := by
    rintro name ⟨key, node⟩
    simp only [Steps.map_eq_ok_iff, Prod.mk.injEq]
    constructor
    · rintro ⟨_, read, rfl, rfl⟩
      exact ⟨rfl, read⟩
    · rintro ⟨rfl, read⟩
      exact ⟨node, read, rfl, rfl⟩
  rw [documents, Steps.mapM_eq_ok_iff]
  simp only [step_iff]

theorem mem_documents {directory : String} {names : List String}
    {entries : List (String × Schema.Node)} {entry : String × Schema.Node}
    (loaded : tree.documents working directory names = .ok entries) (member : entry ∈ entries) :
    entry.1 ∈ names ∧ tree.document working (Path.join directory entry.1) = .ok entry.2 := by
  obtain ⟨name, nameMem, rfl, read⟩ := exists_left_of_mem (documents_eq_ok_iff.mp loaded) member
  exact ⟨nameMem, read⟩

theorem mem_siblingNames_iff {root name : String} {names : List String} :
    name ∈ siblingNames root names ↔
      name ∈ names ∧ isSchemaFileName name = true ∧ name ≠ root := by
  rw [siblingNames, List.mem_mergeSort, List.mem_filter, Bool.and_eq_true, decide_eq_true_eq]

/-- Every document of a repository is read from the text of the file with its name. -/
theorem documentText_of_mem {root name : String} {repository : Repository} {node : Schema.Node}
    (loaded : tree.repository working root = .ok repository)
    (member : (name, node) ∈ repository.documents) :
    ∃ text, tree.documentText working root name = .ok text ∧
      Schema.Node.ofDocument text = .ok node := by
  unfold FileTree.repository at loaded
  obtain ⟨path, resolved, loaded⟩ := Steps.bind_eq_ok_iff.mp loaded
  obtain ⟨location, locationEq, rfl⟩ :=
    Steps.map_eq_ok_iff.mp (Steps.mapError_eq_ok_iff.mp resolved)
  split at loaded
  · nomatch loaded
  · next rootName rootEq =>
      obtain ⟨rootNode, rootRead, loaded⟩ := Steps.bind_eq_ok_iff.mp loaded
      obtain ⟨names, -, loaded⟩ := Steps.bind_eq_ok_iff.mp loaded
      obtain ⟨siblings, siblingsRead, finished⟩ := Steps.bind_eq_ok_iff.mp loaded
      obtain rfl := Steps.pure_eq_ok_iff.mp finished
      rcases List.mem_cons.mp (Repository.mem_ofDocuments member) with isRoot | isSibling
      · obtain ⟨rfl, rfl⟩ := Prod.mk.inj isRoot
        have pathEq : documentPath (Path.absolute location) name = Path.absolute location := by
          rw [documentPath, if_pos rootEq]
        obtain ⟨text, textEq, read⟩ := document_eq_ok_iff.mp rootRead
        exact ⟨text, (documentText_eq locationEq pathEq).trans textEq, read⟩
      · obtain ⟨nameMem, nodeRead⟩ := mem_documents siblingsRead isSibling
        have nameNe : Path.fileName? (Path.absolute location) ≠ some name := by
          rw [rootEq]
          intro nameEq
          exact (mem_siblingNames_iff.mp nameMem).2.2 (Option.some.inj nameEq).symm
        have pathEq : documentPath (Path.absolute location) name =
            Path.join (Path.parent (Path.absolute location)) name := by
          rw [documentPath, if_neg nameNe]
        obtain ⟨text, textEq, read⟩ := document_eq_ok_iff.mp nodeRead
        exact ⟨text, (documentText_eq locationEq pathEq).trans textEq, read⟩

theorem keysIncrease_repository {root : String} {repository : Repository}
    (loaded : tree.repository working root = .ok repository) :
    KeysIncrease repository.documents := by
  unfold FileTree.repository at loaded
  obtain ⟨path, -, loaded⟩ := Steps.bind_eq_ok_iff.mp loaded
  split at loaded
  · nomatch loaded
  · obtain ⟨rootNode, -, loaded⟩ := Steps.bind_eq_ok_iff.mp loaded
    obtain ⟨names, -, loaded⟩ := Steps.bind_eq_ok_iff.mp loaded
    obtain ⟨siblings, -, finished⟩ := Steps.bind_eq_ok_iff.mp loaded
    obtain rfl := Steps.pure_eq_ok_iff.mp finished
    exact Repository.keysIncrease_ofDocuments _ _

end FileTree
end SchemaClasses
