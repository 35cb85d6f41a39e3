import SchemaClasses.Proofs.Json.Breaks
import SchemaClasses.Schema.Reading

/-!
# Schemas are read from whole values

A schema is read from an array or an object that does not break off.  The values of its keywords are
read as wholes, and what is not read is skipped as a whole.
-/

namespace SchemaClasses
namespace Schema

open Json

variable {α : Type} {tree : Tree}

/-- Reading succeeds only on trees without faults for a skipper. -/
def ReadsWholes (read : Tree → Reading α) : Prop :=
  ∀ tree value, read tree = .ok value → tree.skipFault? = none

theorem readText_readsWholes : ReadsWholes readText := by
  intro tree value read
  cases tree with
  | string text stop => rfl
  | _ => nomatch read

theorem ReadsWholes.optional {read : Tree → Reading α} (readsWholes : ReadsWholes read) :
    ReadsWholes (optional read) := by
  intro tree value readEq
  cases tree with
  | null stop => rfl
  | _ =>
      obtain ⟨inner, innerEq, -⟩ := Steps.map_eq_ok_iff.mp readEq
      exact readsWholes _ _ innerEq

theorem readElements_readsWholes {read : Tree → Reading α} (readsWholes : ReadsWholes read) :
    ∀ {position : Nat} {elements : Elements} {values : List α},
      readElements read position elements = .ok values → elements.skipFault? = none
  | _, .closed, _, _ => rfl
  | _, .broken _, _, readEq => nomatch readEq
  | _, .element _ tree _ rest, _, readEq => by
      rw [readElements] at readEq
      obtain ⟨value, valueEq, readEq⟩ := Steps.bind_eq_ok_iff.mp readEq
      obtain ⟨values, valuesEq, -⟩ := Steps.bind_eq_ok_iff.mp readEq
      rw [Elements.skipFault?, readsWholes _ _ (Steps.mapError_eq_ok_iff.mp valueEq),
        Option.none_or]
      exact readElements_readsWholes readsWholes valuesEq

theorem readArray_readsWholes {depth : Nat} {read : Nat → Tree → Reading α}
    (readsWholes : ∀ inner, ReadsWholes (read inner)) : ReadsWholes (readArray depth read) := by
  intro tree value readEq
  cases tree with
  | array start elements =>
      obtain ⟨inner, -, readEq⟩ := Steps.bind_eq_ok_iff.mp readEq
      exact readElements_readsWholes (readsWholes inner) readEq
  | _ => nomatch readEq

theorem toValue_readsWholes (depth : Nat) : ReadsWholes (Tree.toValue depth) :=
  fun _ _ => Tree.skipFault?_of_toValue

theorem readTypeKeyword_readsWholes (depth : Nat) : ReadsWholes (readTypeKeyword depth) := by
  intro tree value readEq
  obtain ⟨plain, plainEq, -⟩ := Steps.bind_eq_ok_iff.mp readEq
  exact Tree.skipFault?_of_toValue plainEq

theorem readAdditional_readsWholes {depth : Nat} (asNode : Tree → Unit → Reading Node) :
    ReadsWholes fun tree => readAdditional depth tree (asNode tree) := by
  intro tree value readEq
  obtain ⟨plain, plainEq, -⟩ := Steps.bind_eq_ok_iff.mp readEq
  exact Tree.skipFault?_of_toValue plainEq

/-- The readings of a tree as schemas succeed only if it has no faults for a skipper. -/
structure NodeReadings.OfWhole (readings : NodeReadings) (tree : Tree) : Prop where
  node : ∀ node, readings.node () = .ok node → tree.skipFault? = none
  nodes : ∀ nodes, readings.nodes () = .ok nodes → tree.skipFault? = none
  properties : ∀ properties, readings.properties () = .ok properties → tree.skipFault? = none

theorem optionalNode_readsWhole {asNode : Unit → Reading Node} {result : Option Node}
    (ofWhole : ∀ node, asNode () = .ok node → tree.skipFault? = none)
    (readEq : optionalNode tree asNode = .ok result) : tree.skipFault? = none := by
  cases tree with
  | null stop => rfl
  | _ =>
      obtain ⟨node, nodeEq, -⟩ := Steps.map_eq_ok_iff.mp readEq
      exact ofWhole node nodeEq

/-- The value of every keyword is read as a whole. -/
theorem Node.assign_readsWhole {node assigned : Node} {depth : Nat} {readings : NodeReadings}
    {keyword : Keyword} (ofWhole : readings.OfWhole tree)
    (assignedEq : node.assign depth tree readings keyword = .ok assigned) :
    tree.skipFault? = none := by
  cases keyword with
  | title | description | reference =>
      obtain ⟨value, valueEq, -⟩ := Steps.bind_eq_ok_iff.mp assignedEq
      exact readText_readsWholes.optional _ _ valueEq
  | typeKeyword =>
      obtain ⟨value, valueEq, -⟩ := Steps.bind_eq_ok_iff.mp assignedEq
      exact (readTypeKeyword_readsWholes depth).optional _ _ valueEq
  | properties =>
      obtain ⟨value, valueEq, -⟩ := Steps.bind_eq_ok_iff.mp assignedEq
      exact ofWhole.properties _ valueEq
  | required =>
      obtain ⟨value, valueEq, -⟩ := Steps.bind_eq_ok_iff.mp assignedEq
      exact readArray_readsWholes (fun _ => readText_readsWholes) _ _ valueEq
  | items =>
      obtain ⟨value, valueEq, -⟩ := Steps.bind_eq_ok_iff.mp assignedEq
      exact optionalNode_readsWhole ofWhole.node valueEq
  | additional =>
      obtain ⟨value, valueEq, -⟩ := Steps.bind_eq_ok_iff.mp assignedEq
      exact (readAdditional_readsWholes fun _ => readings.node).optional _ _ valueEq
  | defaultKeyword =>
      obtain ⟨value, valueEq, -⟩ := Steps.bind_eq_ok_iff.mp assignedEq
      exact toValue_readsWholes depth _ _ valueEq
  | enumeration =>
      obtain ⟨value, valueEq, -⟩ := Steps.bind_eq_ok_iff.mp assignedEq
      exact (readArray_readsWholes toValue_readsWholes).optional _ _ valueEq
  | constant =>
      obtain ⟨value, valueEq, -⟩ := Steps.bind_eq_ok_iff.mp assignedEq
      exact (toValue_readsWholes depth).optional _ _ valueEq
  | allOf | anyOf =>
      obtain ⟨value, valueEq, -⟩ := Steps.bind_eq_ok_iff.mp assignedEq
      exact ofWhole.nodes _ valueEq

mutual

/-- A schema is read from a tree without faults for a skipper. -/
theorem readNode_readsWhole {depth : Nat} :
    ∀ {tree : Tree} {node : Node}, readNode depth tree = .ok node → tree.skipFault? = none
  | .object _ members, _, readEq => by
      rw [readNode] at readEq
      obtain ⟨inner, -, readEq⟩ := Steps.bind_eq_ok_iff.mp readEq
      exact readMembers_readsWhole readEq
  | .array _ elements, _, readEq => by
      rw [readNode] at readEq
      obtain ⟨inner, -, readEq⟩ := Steps.bind_eq_ok_iff.mp readEq
      exact readPositions_readsWhole readEq
  | .null _, _, readEq => nomatch readEq
  | .boolean _ _, _, readEq => nomatch readEq
  | .number _ _, _, readEq => nomatch readEq
  | .string _ _, _, readEq => nomatch readEq
  | .broken _, _, readEq => nomatch readEq

theorem readMembers_readsWhole {depth : Nat} :
    ∀ {members : Members} {seen : List Keyword} {node result : Node},
      readMembers depth seen node members = .ok result → members.skipFault? = none
  | .closed, _, _, _, _ => rfl
  | .broken _, _, _, _, readEq => nomatch readEq
  | .keyAlone _ _ _, _, _, _, readEq => by
      rw [readMembers] at readEq
      obtain ⟨_, -, readEq⟩ := Steps.bind_eq_ok_iff.mp readEq
      split at readEq
      · split at readEq <;> nomatch readEq
      · nomatch readEq
  | .member _ _ tree _ rest, _, _, _, readEq => by
      rw [readMembers] at readEq
      obtain ⟨_, -, readEq⟩ := Steps.bind_eq_ok_iff.mp readEq
      split at readEq
      · split at readEq
        · nomatch readEq
        · next skipped =>
            rw [Members.skipFault?, skipped, Option.none_or]
            exact readMembers_readsWhole readEq
      · split at readEq
        · nomatch readEq
        · obtain ⟨assigned, assignedEq, readEq⟩ := Steps.bind_eq_ok_iff.mp readEq
          have placed := Steps.mapError_eq_ok_iff.mp (Steps.mapError_eq_ok_iff.mp assignedEq)
          have isWhole : tree.skipFault? = none :=
            Node.assign_readsWhole ⟨fun _ => readNode_readsWhole, fun _ => readNodes_readsWhole,
              fun _ => readProperties_readsWhole⟩ placed
          rw [Members.skipFault?, isWhole, Option.none_or]
          exact readMembers_readsWhole readEq

theorem readPositions_readsWhole {depth : Nat} :
    ∀ {elements : Elements} {keywords : List Keyword} {position : Nat} {node result : Node},
      readPositions depth keywords position node elements = .ok result →
        elements.skipFault? = none
  | .closed, _, _, _, _, _ => rfl
  | .broken _, [], _, _, _, readEq => nomatch readEq
  | .broken _, _ :: _, _, _, _, readEq => nomatch readEq
  | .element _ _ _ _, [], _, _, _, readEq => nomatch readEq
  | .element _ tree _ rest, _ :: _, _, _, _, readEq => by
      rw [readPositions] at readEq
      obtain ⟨assigned, assignedEq, readEq⟩ := Steps.bind_eq_ok_iff.mp readEq
      have placed := Steps.mapError_eq_ok_iff.mp (Steps.mapError_eq_ok_iff.mp assignedEq)
      have isWhole : tree.skipFault? = none :=
        Node.assign_readsWhole ⟨fun _ => readNode_readsWhole, fun _ => readNodes_readsWhole,
          fun _ => readProperties_readsWhole⟩ placed
      rw [Elements.skipFault?, isWhole, Option.none_or]
      exact readPositions_readsWhole readEq

theorem readNodes_readsWhole {depth : Nat} :
    ∀ {tree : Tree} {nodes : List Node}, readNodes depth tree = .ok nodes → tree.skipFault? = none
  | .array _ elements, _, readEq => by
      rw [readNodes] at readEq
      obtain ⟨inner, -, readEq⟩ := Steps.bind_eq_ok_iff.mp readEq
      exact readNodeElements_readsWhole readEq
  | .object _ _, _, readEq => nomatch readEq
  | .null _, _, readEq => nomatch readEq
  | .boolean _ _, _, readEq => nomatch readEq
  | .number _ _, _, readEq => nomatch readEq
  | .string _ _, _, readEq => nomatch readEq
  | .broken _, _, readEq => nomatch readEq

theorem readNodeElements_readsWhole {depth : Nat} :
    ∀ {elements : Elements} {position : Nat} {nodes : List Node},
      readNodeElements depth position elements = .ok nodes → elements.skipFault? = none
  | .closed, _, _, _ => rfl
  | .broken _, _, _, readEq => nomatch readEq
  | .element _ tree _ rest, _, _, readEq => by
      rw [readNodeElements] at readEq
      obtain ⟨node, nodeEq, readEq⟩ := Steps.bind_eq_ok_iff.mp readEq
      obtain ⟨nodes, nodesEq, -⟩ := Steps.bind_eq_ok_iff.mp readEq
      rw [Elements.skipFault?, readNode_readsWhole (Steps.mapError_eq_ok_iff.mp nodeEq),
        Option.none_or]
      exact readNodeElements_readsWhole nodesEq

theorem readProperties_readsWhole {depth : Nat} :
    ∀ {tree : Tree} {properties : List (String × Node)},
      readProperties depth tree = .ok properties → tree.skipFault? = none
  | .object _ members, _, readEq => by
      rw [readProperties] at readEq
      obtain ⟨inner, -, readEq⟩ := Steps.bind_eq_ok_iff.mp readEq
      exact readPropertyMembers_readsWhole readEq
  | .array _ _, _, readEq => nomatch readEq
  | .null _, _, readEq => nomatch readEq
  | .boolean _ _, _, readEq => nomatch readEq
  | .number _ _, _, readEq => nomatch readEq
  | .string _ _, _, readEq => nomatch readEq
  | .broken _, _, readEq => nomatch readEq

theorem readPropertyMembers_readsWhole {depth : Nat} :
    ∀ {members : Members} {properties result : List (String × Node)},
      readPropertyMembers depth properties members = .ok result → members.skipFault? = none
  | .closed, _, _, _ => rfl
  | .broken _, _, _, readEq => nomatch readEq
  | .keyAlone _ _ _, _, _, readEq => by
      rw [readPropertyMembers] at readEq
      obtain ⟨_, -, failed⟩ := Steps.bind_eq_ok_iff.mp readEq
      nomatch failed
  | .member _ _ tree _ rest, _, _, readEq => by
      rw [readPropertyMembers] at readEq
      obtain ⟨name, -, readEq⟩ := Steps.bind_eq_ok_iff.mp readEq
      obtain ⟨node, nodeEq, readEq⟩ := Steps.bind_eq_ok_iff.mp readEq
      rw [Members.skipFault?, readNode_readsWhole (Steps.mapError_eq_ok_iff.mp nodeEq),
        Option.none_or]
      exact readPropertyMembers_readsWhole readEq

end

end Schema
end SchemaClasses
