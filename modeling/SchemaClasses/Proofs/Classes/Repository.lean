import SchemaClasses.Classes.Repository
import SchemaClasses.Proofs.Entries

/-!
# Documents of a repository

The documents of a repository are the last ones that are given for each name, in the strict order of
the names.
-/

namespace SchemaClasses
namespace Repository

variable {root : String} {documents entries : List (String × Schema.Node)}
  {entry : String × Schema.Node}

/-- Adds documents one by one to sorted ones. -/
def insertAll (entries documents : List (String × Schema.Node)) : List (String × Schema.Node) :=
  documents.foldl (fun entries (name, document) => insertSorted name document entries) entries

/-- What is found is the last document that was added under the name, or else the earlier one. -/
theorem lookup_insertAll (entries documents : List (String × Schema.Node)) (name : String) :
    (insertAll entries documents).lookup name = (documents.reverse ++ entries).lookup name := by
  induction documents generalizing entries with
  | nil => rfl
  | cons document rest ih =>
      obtain ⟨first, node⟩ := document
      change (insertAll (insertSorted first node entries) rest).lookup name = _
      rw [ih, List.reverse_cons, List.append_assoc, List.singleton_append, List.lookup_append,
        List.lookup_append, lookup_insertSorted, lookup_cons_entry]

theorem keysIncrease_insertAll (increase : KeysIncrease entries) :
    KeysIncrease (insertAll entries documents) := by
  induction documents generalizing entries with
  | nil => exact increase
  | cons document rest ih => exact ih (keysIncrease_insertSorted _ _ increase)

theorem keysIncrease_ofDocuments (root : String) (documents : List (String × Schema.Node)) :
    KeysIncrease (ofDocuments root documents).documents :=
  keysIncrease_insertAll List.Pairwise.nil

/-- A document is the last one that is given for a name. -/
def LastGiven (documents : List (String × Schema.Node)) (name : String)
    (node : Schema.Node) : Prop :=
  ∃ before after, documents = before ++ (name, node) :: after ∧ ∀ later ∈ after, later.1 ≠ name

theorem lookup_reverse_eq_some_iff {name : String} {node : Schema.Node} :
    documents.reverse.lookup name = some node ↔ LastGiven documents name node := by
  rw [List.lookup_eq_some_iff]
  constructor
  · rintro ⟨after, before, reverseEq, different⟩
    refine ⟨before.reverse, after.reverse, ?_, ?_⟩
    · rw [← List.reverse_reverse documents, reverseEq]
      simp
    · intro later member
      have laterNe := different later (List.mem_reverse.mp member)
      exact (bne_iff_ne.mp laterNe).symm
  · rintro ⟨before, after, rfl, different⟩
    refine ⟨after.reverse, before.reverse, by simp, ?_⟩
    intro later member
    have laterNe := different later (List.mem_reverse.mp member)
    exact bne_iff_ne.mpr laterNe.symm

/-- A repository holds the last document that is given for a name, and nothing else. -/
theorem mem_ofDocuments_iff {name : String} {node : Schema.Node} :
    (name, node) ∈ (ofDocuments root documents).documents ↔ LastGiven documents name node := by
  rw [(keysIncrease_ofDocuments root documents).mem_iff_lookup, ← lookup_reverse_eq_some_iff]
  change (insertAll [] documents).lookup name = some node ↔ _
  rw [lookup_insertAll, List.append_nil]

theorem mem_ofDocuments (member : entry ∈ (ofDocuments root documents).documents) :
    entry ∈ documents := by
  obtain ⟨before, after, rfl, -⟩ := mem_ofDocuments_iff.mp member
  exact List.mem_append_right _ List.mem_cons_self

theorem exists_lastGiven {name : String} (given : name ∈ documents.map Prod.fst) :
    ∃ node, LastGiven documents name node := by
  simp only [← lookup_reverse_eq_some_iff]
  rw [← Option.isSome_iff_exists, ← Option.ne_none_iff_isSome]
  intro notFound
  obtain ⟨entry, member, rfl⟩ := List.mem_map.mp given
  have different := List.lookup_eq_none_iff.mp notFound entry (List.mem_reverse.mpr member)
  exact bne_iff_ne.mp different rfl

/-- Leaving out documents without a class keeps the order. -/
theorem keysIncrease_objectDocuments {repository : Repository}
    (increase : KeysIncrease repository.documents) :
    KeysIncrease repository.objectDocuments :=
  increase.sublist (List.filter_sublist.map Prod.fst)

theorem isObjectTyped_of_mem {repository : Repository}
    (member : entry ∈ repository.objectDocuments) : entry.2.isObjectTyped = true :=
  (List.mem_filter.mp member).2

end Repository
end SchemaClasses
