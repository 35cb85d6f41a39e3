import SchemaClasses.Classes.Batch
import SchemaClasses.Entries

/-!
# Repositories of schema documents

All documents of a run by their file names.  Those that are object-typed have a class each.
-/

namespace SchemaClasses

structure Repository where
  /-- The file name of the root document. -/
  root : String
  /-- The documents in the order of their file names. -/
  documents : List (String × Schema.Node)

namespace Repository

/-- Sorts documents by their file names; of a repeated name the last document counts. -/
def ofDocuments (root : String) (documents : List (String × Schema.Node)) : Repository :=
  ⟨root, documents.foldl (fun entries (name, document) => insertSorted name document entries) []⟩

def document? (repository : Repository) (fileName : String) : Option Schema.Node :=
  repository.documents.lookup fileName

def size (repository : Repository) : Nat :=
  repository.documents.length

def isEmpty (repository : Repository) : Bool :=
  repository.documents.isEmpty

/-- The documents that have a class. -/
def objectDocuments (repository : Repository) : List (String × Schema.Node) :=
  repository.documents.filter fun (_, document) => document.isObjectTyped

/-- The classes of all object-typed documents, in the order of the file names. -/
def classes (repository : Repository) (namespaceName : String) :
    Except Failure (List ClassDef) :=
  let (result, batch) :=
    (Batch.addAll repository.objectDocuments).run.run (Batch.empty namespaceName)
  result.map fun _ => batch.classes

end Repository
end SchemaClasses
