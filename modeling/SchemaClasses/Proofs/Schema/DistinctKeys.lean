import SchemaClasses.Proofs.Steps
import SchemaClasses.Schema.Reading

/-!
# Distinct keys

A schema that is read has no two properties with the same key, because a property whose key is there
already takes the place of the earlier one.  Its properties are therefore found by their keys.
-/

namespace SchemaClasses
namespace Schema

open Json

/-- The keys of the properties of a document are distinct. -/
def Node.DistinctKeys (document : Node) : Prop :=
  (document.properties.map Prod.fst).Nodup

/-- In a document with distinct keys every property is found under its key. -/
theorem Node.DistinctKeys.lookup_eq {document node : Node} {key : String}
    (distinct : document.DistinctKeys) (member : (key, node) ∈ document.properties) :
    document.properties.lookup key = some node := by
  obtain ⟨before, after, propertiesEq⟩ := List.append_of_mem member
  rw [List.lookup_eq_some_iff]
  refine ⟨before, after, propertiesEq, ?_⟩
  intro earlier earlierMem
  unfold Node.DistinctKeys at distinct
  rw [propertiesEq, List.map_append, List.map_cons, List.nodup_append] at distinct
  have keyNe := distinct.2.2 earlier.1 (List.mem_map_of_mem earlierMem) key (by simp)
  simpa using Ne.symm keyNe

theorem mem_keys_putProperty {key other : String} {node : Node}
    {properties : List (String × Node)} :
    other ∈ (putProperty key node properties).map Prod.fst ↔
      other = key ∨ other ∈ properties.map Prod.fst := by
  induction properties with
  | nil => simp [putProperty]
  | cons entry rest ih =>
      obtain ⟨first, old⟩ := entry
      unfold putProperty
      by_cases same : first = key
      · subst same
        simp
      · rw [if_neg same, List.map_cons, List.mem_cons, ih, List.map_cons, List.mem_cons]
        exact or_left_comm

theorem nodup_keys_putProperty {key : String} {node : Node} {properties : List (String × Node)}
    (distinct : (properties.map Prod.fst).Nodup) :
    ((putProperty key node properties).map Prod.fst).Nodup := by
  induction properties with
  | nil => simp [putProperty]
  | cons entry rest ih =>
      obtain ⟨first, old⟩ := entry
      obtain ⟨notMem, restDistinct⟩ := List.nodup_cons.mp distinct
      unfold putProperty
      by_cases same : first = key
      · subst same
        rwa [if_pos rfl]
      · rw [if_neg same, List.map_cons, List.nodup_cons, mem_keys_putProperty]
        refine ⟨?_, ih restDistinct⟩
        rintro (keyEq | inRest)
        · exact same keyEq
        · exact notMem inRest

theorem readPropertyMembers_nodup {depth : Nat} {properties result : List (String × Node)} :
    ∀ {members : Members}, (properties.map Prod.fst).Nodup →
      readPropertyMembers depth properties members = .ok result →
      (result.map Prod.fst).Nodup
  | .closed, distinct, read => by
      unfold readPropertyMembers at read
      injection read with resultEq
      exact resultEq ▸ distinct
  | .broken _, _, read => by
      unfold readPropertyMembers at read
      nomatch read
  | .keyAlone _ _ _, _, read => by
      unfold readPropertyMembers at read
      obtain ⟨_, -, failed⟩ := Steps.bind_eq_ok_iff.mp read
      nomatch failed
  | .member _ _ _ _ _, distinct, read => by
      unfold readPropertyMembers at read
      obtain ⟨_, -, read⟩ := Steps.bind_eq_ok_iff.mp read
      obtain ⟨_, -, read⟩ := Steps.bind_eq_ok_iff.mp read
      exact readPropertyMembers_nodup (nodup_keys_putProperty distinct) read

theorem readProperties_nodup {depth : Nat} {tree : Tree} {result : List (String × Node)}
    (read : readProperties depth tree = .ok result) : (result.map Prod.fst).Nodup := by
  cases tree with
  | object start members =>
      unfold readProperties at read
      obtain ⟨inner, -, read⟩ := Steps.bind_eq_ok_iff.mp read
      have noKeys : (([] : List (String × Node)).map Prod.fst).Nodup := List.nodup_nil
      exact readPropertyMembers_nodup noKeys read
  | _ =>
      unfold readProperties at read
      nomatch read

/-- Of all keywords only one changes the properties, and it reads them anew. -/
theorem Node.assign_distinctKeys {node assigned : Node} {depth : Nat} {tree : Tree}
    {readings : NodeReadings} {keyword : Keyword} (distinct : node.DistinctKeys)
    (readingsDistinct : ∀ properties, readings.properties () = .ok properties →
      (properties.map Prod.fst).Nodup)
    (assignedEq : node.assign depth tree readings keyword = .ok assigned) :
    assigned.DistinctKeys := by
  cases keyword with
  | properties =>
      obtain ⟨properties, read, finished⟩ := Steps.bind_eq_ok_iff.mp assignedEq
      obtain rfl := Steps.pure_eq_ok_iff.mp finished
      exact readingsDistinct properties read
  | _ =>
      obtain ⟨value, -, finished⟩ := Steps.bind_eq_ok_iff.mp assignedEq
      obtain rfl := Steps.pure_eq_ok_iff.mp finished
      exact distinct

theorem readMembers_distinctKeys {depth : Nat} :
    ∀ {seen : List Keyword} {node result : Node} {members : Members}, node.DistinctKeys →
      readMembers depth seen node members = .ok result → result.DistinctKeys
  | _, _, _, .closed, distinct, read => by
      unfold readMembers at read
      injection read with resultEq
      exact resultEq ▸ distinct
  | _, _, _, .broken _, _, read => by
      unfold readMembers at read
      nomatch read
  | _, _, _, .keyAlone _ _ _, _, read => by
      unfold readMembers at read
      obtain ⟨_, -, read⟩ := Steps.bind_eq_ok_iff.mp read
      split at read
      · split at read <;> nomatch read
      · nomatch read
  | _, _, _, .member _ _ _ _ _, distinct, read => by
      unfold readMembers at read
      obtain ⟨_, -, read⟩ := Steps.bind_eq_ok_iff.mp read
      split at read
      · split at read
        · nomatch read
        · exact readMembers_distinctKeys distinct read
      · split at read
        · nomatch read
        · obtain ⟨assigned, assignedEq, read⟩ := Steps.bind_eq_ok_iff.mp read
          have placed := Steps.mapError_eq_ok_iff.mp (Steps.mapError_eq_ok_iff.mp assignedEq)
          exact readMembers_distinctKeys
            (Node.assign_distinctKeys distinct (fun _ => readProperties_nodup) placed) read

theorem readPositions_distinctKeys {depth : Nat} :
    ∀ {keywords : List Keyword} {position : Nat} {node result : Node} {elements : Elements},
      node.DistinctKeys → readPositions depth keywords position node elements = .ok result →
      result.DistinctKeys
  | _, _, _, _, .closed, distinct, read => by
      unfold readPositions at read
      injection read with resultEq
      exact resultEq ▸ distinct
  | _, _, _, _, .broken _, _, read => by
      unfold readPositions at read
      split at read <;> nomatch read
  | [], _, _, _, .element _ _ _ _, _, read => by
      unfold readPositions at read
      nomatch read
  | _ :: _, _, _, _, .element _ _ _ _, distinct, read => by
      unfold readPositions at read
      obtain ⟨assigned, assignedEq, read⟩ := Steps.bind_eq_ok_iff.mp read
      have placed := Steps.mapError_eq_ok_iff.mp (Steps.mapError_eq_ok_iff.mp assignedEq)
      exact readPositions_distinctKeys
        (Node.assign_distinctKeys distinct (fun _ => readProperties_nodup) placed) read

/-- A document read from a text has distinct keys. -/
theorem Node.ofDocument_distinctKeys {text : String} {document : Node}
    (read : Node.ofDocument text = .ok document) : document.DistinctKeys := by
  have emptyDistinct : Node.empty.DistinctKeys := List.nodup_nil
  unfold Node.ofDocument at read
  cases treeEq : (lay text).1 with
  | object start members =>
      rw [treeEq, readNode] at read
      obtain ⟨inner, -, read⟩ := Steps.bind_eq_ok_iff.mp read
      exact readMembers_distinctKeys emptyDistinct read
  | array start elements =>
      rw [treeEq, readNode] at read
      obtain ⟨inner, -, read⟩ := Steps.bind_eq_ok_iff.mp read
      exact readPositions_distinctKeys emptyDistinct read
  | _ =>
      rw [treeEq, readNode] at read
      all_goals nomatch read

end Schema
end SchemaClasses
