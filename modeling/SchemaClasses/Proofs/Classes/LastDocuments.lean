import SchemaClasses.Proofs.Classes.Batch
import SchemaClasses.Proofs.Classes.Repository
import SchemaClasses.Proofs.Text.Bytes

/-!
# Classes of the last documents

Documents may be given in any order and more than once.  The classes depend on nothing but the last
object-typed documents, and they come in the order of the names of these.
-/

namespace SchemaClasses
namespace Repository

variable {root otherRoot : String} {documents others : List (String × Schema.Node)}

theorem mem_names_ofDocuments_iff {name : String} :
    name ∈ (ofDocuments root documents).documents.map Prod.fst ↔ name ∈ documents.map Prod.fst := by
  constructor
  · intro named
    obtain ⟨entry, member, rfl⟩ := List.mem_map.mp named
    exact List.mem_map_of_mem (mem_ofDocuments member)
  · intro given
    obtain ⟨node, last⟩ := exists_lastGiven given
    have held : (name, node) ∈ (ofDocuments root documents).documents :=
      mem_ofDocuments_iff.mpr last
    exact List.mem_map_of_mem held

/-- Documents of which the same are the last ones make the same repository. -/
theorem documents_eq_of_lastGiven
    (same : ∀ name node, LastGiven others name node ↔ LastGiven documents name node) :
    (ofDocuments otherRoot others).documents = (ofDocuments root documents).documents := by
  refine (keysIncrease_ofDocuments otherRoot others).eq_of_mem_iff
    (keysIncrease_ofDocuments root documents) fun entry => ?_
  obtain ⟨name, node⟩ := entry
  rw [mem_ofDocuments_iff, mem_ofDocuments_iff, same]

theorem mem_objectDocuments_iff {name : String} {node : Schema.Node} :
    (name, node) ∈ (ofDocuments root documents).objectDocuments ↔
      LastGiven documents name node ∧ node.isObjectTyped = true := by
  rw [objectDocuments, List.mem_filter, mem_ofDocuments_iff]

/-- Documents that are not object-typed are only there to be left out. -/
theorem objectDocuments_eq_of_lastGiven
    (same : ∀ name node, node.isObjectTyped = true →
      (LastGiven others name node ↔ LastGiven documents name node)) :
    (ofDocuments otherRoot others).objectDocuments =
      (ofDocuments root documents).objectDocuments := by
  have increase := keysIncrease_objectDocuments (keysIncrease_ofDocuments root documents)
  have othersIncrease := keysIncrease_objectDocuments (keysIncrease_ofDocuments otherRoot others)
  refine othersIncrease.eq_of_mem_iff increase fun entry => ?_
  obtain ⟨name, node⟩ := entry
  rw [mem_objectDocuments_iff, mem_objectDocuments_iff]
  exact and_congr_left fun objectTyped => same name node objectTyped

/-- What a repository makes of the documents that are given to it. -/
structure MadeOfLast (namespaceName : String) (documents : List (String × Schema.Node))
    (repository : Repository) : Prop where
  /-- The names increase in the order of their bytes. -/
  ordered : (repository.documents.map fun entry => Sink.bytes entry.1).Pairwise (· < ·)
  mem_iff : ∀ name node, (name, node) ∈ repository.documents ↔ LastGiven documents name node
  name_mem_iff : ∀ name,
    name ∈ repository.documents.map Prod.fst ↔ name ∈ documents.map Prod.fst
  ok_iff : ∀ classes, repository.classes namespaceName = .ok classes ↔
    List.Forall₂ (Makes namespaceName) repository.objectDocuments classes ∧
      (classes.map ClassDef.name).Nodup
  /-- The first document counts that has no class beside those of the documents before it. -/
  error_iff : ∀ failure, repository.classes namespaceName = .error failure ↔
    ∃ before entry after classes, repository.objectDocuments = before ++ entry :: after ∧
      List.Forall₂ (Makes namespaceName) before classes ∧ (classes.map ClassDef.name).Nodup ∧
      FailsBeside namespaceName before entry failure
  sameDocuments : ∀ otherRoot others,
    (∀ name node, LastGiven others name node ↔ LastGiven documents name node) →
      (ofDocuments otherRoot others).documents = repository.documents
  sameClasses : ∀ otherRoot others,
    (∀ name node, node.isObjectTyped = true →
      (LastGiven others name node ↔ LastGiven documents name node)) →
      (ofDocuments otherRoot others).classes namespaceName = repository.classes namespaceName

/-- A repository has the last document for each name in the order of the names.  Its classes are
those of the object-typed ones in the same order, or there are none because of the first of these
that has no class or repeats the name of one. -/
theorem ofDocuments_madeOfLast (namespaceName root : String)
    (documents : List (String × Schema.Node)) :
    MadeOfLast namespaceName documents (ofDocuments root documents) where
  ordered := Sink.bytes_increase (keysIncrease_ofDocuments root documents)
  mem_iff _ _ := mem_ofDocuments_iff
  name_mem_iff _ := mem_names_ofDocuments_iff
  ok_iff _ := classes_eq_ok_iff
  error_iff _ := classes_eq_error_iff
  sameDocuments _ _ same := documents_eq_of_lastGiven same
  sameClasses otherRoot others same := by
    have sameObjects : (ofDocuments otherRoot others).objectDocuments =
        (ofDocuments root documents).objectDocuments :=
      objectDocuments_eq_of_lastGiven same
    unfold Repository.classes
    rw [sameObjects]

/-- Four documents, of which one replaces another and one is not object-typed. -/
def draftDocuments : List (String × Schema.Node) :=
  [("b.schema.json", .titled "Draft"),
    ("id.schema.json", { Schema.Node.empty with typeKeyword := some (.single .integer) }),
    ("a.schema.json", .titled "Alpha"), ("b.schema.json", .titled "Beta")]

/-- The two of them that count, in the other order. -/
def finalDocuments : List (String × Schema.Node) :=
  [("b.schema.json", .titled "Beta"), ("a.schema.json", .titled "Alpha")]

theorem classes_finalDocuments :
    (∀ name node, node.isObjectTyped = true →
      (LastGiven finalDocuments name node ↔ LastGiven draftDocuments name node)) ∧
      (ofDocuments "b.schema.json" finalDocuments).classes defaultNamespace =
        (ofDocuments "a.schema.json" draftDocuments).classes defaultNamespace ∧
      ((ofDocuments "a.schema.json" draftDocuments).classes defaultNamespace).toOption.map
          (List.map ClassDef.name) = some ["Alpha", "Beta"] := by
  have same : ∀ name (node : Schema.Node), node.isObjectTyped = true →
      (LastGiven finalDocuments name node ↔ LastGiven draftDocuments name node) := by
    intro name node objectTyped
    rw [← lookup_reverse_eq_some_iff, ← lookup_reverse_eq_some_iff]
    have finalEq : finalDocuments.reverse =
        [("a.schema.json", .titled "Alpha"), ("b.schema.json", .titled "Beta")] := rfl
    have draftEq : draftDocuments.reverse =
        [("b.schema.json", .titled "Beta"), ("a.schema.json", .titled "Alpha"),
          ("id.schema.json", { Schema.Node.empty with typeKeyword := some (.single .integer) }),
          ("b.schema.json", .titled "Draft")] := rfl
    simp only [finalEq, draftEq, lookup_cons_entry]
    by_cases isBeta : name = "b.schema.json"
    · simp [isBeta]
    · by_cases isAlpha : name = "a.schema.json"
      · simp [isAlpha]
      · by_cases isId : name = "id.schema.json"
        · subst isId
          simp only [isBeta, isAlpha, if_false, if_true, List.lookup_nil]
          constructor
          · intro absent
            nomatch absent
          · intro nodeEq
            obtain rfl := Option.some.inj nodeEq
            nomatch objectTyped
        · simp [isBeta, isAlpha, isId]
  refine ⟨same, ?_, by decide +kernel⟩
  exact (ofDocuments_madeOfLast defaultNamespace "a.schema.json" draftDocuments).sameClasses
    "b.schema.json" finalDocuments same

end Repository
end SchemaClasses
