import SchemaClasses.Classes.Basic
import SchemaClasses.Entries

/-!
# Batches of classes

The classes of one run.  Documents are added one by one, and no two classes of a batch have the same
name.
-/

namespace SchemaClasses

structure Batch where
  namespaceName : String
  /-- The classes in the order in which they were added. -/
  classes : List ClassDef
  /-- The file of each class, by the name of the class. -/
  sources : List (String × String)

namespace Batch

def empty (namespaceName : String) : Batch :=
  ⟨namespaceName, [], []⟩

def size (batch : Batch) : Nat :=
  batch.classes.length

def isEmpty (batch : Batch) : Bool :=
  batch.classes.isEmpty

/-- Adds the class of a document to the batch, and gives the class. -/
def add (fileName : String) (document : Schema.Node) :
    ExceptT Failure (StateM Batch) ClassDef := do
  let batch ← get
  let classDef ← ExceptT.mk (pure (ClassDef.ofDocument batch.namespaceName fileName document))
  match batch.sources.lookup classDef.name with
  | some earlier => throw (.collision (.classes earlier fileName) classDef.name)
  | none =>
      modify fun batch =>
        { batch with sources := insertSorted classDef.name fileName batch.sources }
      modify fun batch => { batch with classes := batch.classes ++ [classDef] }
      return classDef

/-- Adds documents in order, up to the first failure. -/
def addAll : List (String × Schema.Node) → ExceptT Failure (StateM Batch) Unit
  | [] => return
  | (fileName, document) :: rest => do
      let _ ← add fileName document
      addAll rest

end Batch
end SchemaClasses
