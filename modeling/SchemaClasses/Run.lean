import SchemaClasses.Classes.Repository
import SchemaClasses.Files.Disk
import SchemaClasses.Generation

/-!
# Runs

A run loads the root schema and the schema files beside it, makes the classes of all documents, and
only then writes a source file for each class.  The first failure ends it.
-/

namespace SchemaClasses

variable {m : Type → Type} [Monad m]

/-- An action on a disk, whose errors become failures. -/
def attempt {α : Type} (failure : SystemError → Failure) (action : m (Except SystemError α)) :
    ExceptT Failure m α :=
  ExceptT.mk do return (← action).mapError failure

def loadFailure (path : String) (error : SystemError) : Failure :=
  .load path (.system error)

def writeFailure (error : SystemError) : Failure :=
  .write (.system error)

/-- The document in a file. -/
def loadDocument (disk : Disk m) (path : String) : ExceptT Failure m Schema.Node := do
  let text ← attempt (loadFailure path) (disk.readText path)
  ExceptT.mk (pure (readDocument path text))

/-- The documents in files of a directory, with the names of the files. -/
def loadDocuments (disk : Disk m) (directory : String) :
    List String → ExceptT Failure m (List (String × Schema.Node))
  | [] => return []
  | name :: names => do
      let document ← loadDocument disk (Path.join directory name)
      return (name, document) :: (← loadDocuments disk directory names)

/-- Whether a file name is that of a schema. -/
def isSchemaFileName (name : String) : Bool :=
  ".schema.json".toList.isSuffixOf name.toList

/-- The names of the schema files beside the root, in order. -/
def siblingNames (root : String) (names : List String) : List String :=
  (names.filter fun name => isSchemaFileName name && name ≠ root).mergeSort fun a b => !(b < a)

namespace Repository

/-- Loads the root schema, and then every schema file in its directory. -/
def load (disk : Disk m) (root : String) : ExceptT Failure m Repository := do
  let path ← attempt (loadFailure root) (disk.canonicalPath root)
  match Path.fileName? path with
  | none => throw (.load path .noFileName)
  | some rootName =>
      let document ← loadDocument disk path
      let directory := Path.parent path
      let names ← attempt (loadFailure directory) (disk.fileNames directory)
      let siblings ← loadDocuments disk directory (siblingNames rootName names)
      return ofDocuments rootName ((rootName, document) :: siblings)

end Repository

/-- Writes the source file of each class, and gives the paths. -/
def writeClasses (disk : Disk m) (output : String) :
    List ClassDef → ExceptT Failure m (List String)
  | [] => return []
  | classDef :: rest => do
      let path := Path.join output (CSharp.fileName classDef)
      attempt writeFailure (disk.writeText path (CSharp.source classDef))
      return path :: (← writeClasses disk output rest)

/-- Writes the source files of classes to a directory, which is created if it is missing. -/
def writeOutput (disk : Disk m) (output : String) (classes : List ClassDef) :
    ExceptT Failure m (List String) := do
  attempt writeFailure (disk.createDirectories output)
  writeClasses disk output classes

/-- A whole run from a root schema to an output directory.  It gives the paths of the files written,
in the order of the classes. -/
def generate (disk : Disk m) (namespaceName root output : String) :
    ExceptT Failure m (List String) := do
  let repository ← Repository.load disk root
  let classes ← ExceptT.mk (pure (repository.classes namespaceName))
  writeOutput disk output classes

end SchemaClasses
