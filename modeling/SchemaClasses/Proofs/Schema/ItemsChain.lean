import SchemaClasses.Proofs.Schema.Shapes

/-!
# Chains of items

An array whose items are arrays again, and so on, is a chain of schema nodes.  The chain ends at the
first node that is not an array with items, and its length in arrays is the rank of the type which
a property with that schema has.
-/

namespace SchemaClasses
namespace Schema

/-- Whether a node of this shape is an array, with or without items. -/
def Shape.isArray : Shape → Bool
  | .array _ => true
  | _ => false

namespace Node

/-- The nodes from a node on through the items of arrays, the node itself first. -/
def itemsChain (node : Node) : List Node :=
  match _shapeEq : node.shape with
  | .array (some items) => node :: items.itemsChain
  | _ => [node]
termination_by sizeOf node
decreasing_by exact sizeOf_items_lt (items_of_shape_array _shapeEq)

/-- The last node of the chain of items. -/
def chainEnd (node : Node) : Node :=
  node.itemsChain.getLastD node

/-- The number of arrays on the chain of items. -/
def arrayRank (node : Node) : Nat :=
  node.itemsChain.countP fun member => member.shape.isArray

theorem itemsChain_of_array {node items : Node}
    (shapeEq : node.shape = .array (some items)) :
    node.itemsChain = node :: items.itemsChain := by
  rw [itemsChain]
  split
  · next found foundEq =>
      rw [shapeEq] at foundEq
      injection foundEq with itemsEq
      injection itemsEq with itemsEq
      rw [itemsEq]
  · next other => exact absurd shapeEq (other items)

theorem itemsChain_of_end {node : Node}
    (ends : ∀ items, node.shape ≠ .array (some items)) :
    node.itemsChain = [node] := by
  rw [itemsChain]
  split
  · next items shapeEq => exact absurd shapeEq (ends items)
  · rfl

theorem itemsChain_ne_nil (node : Node) : node.itemsChain ≠ [] := by
  rw [itemsChain]
  split <;> exact List.cons_ne_nil _ _

/-- The chain of items begins with its node. -/
theorem itemsChain_eq_cons (node : Node) : node.itemsChain = node :: node.itemsChain.tail := by
  rw [itemsChain]
  split <;> rfl

theorem chainEnd_of_array {node items : Node}
    (shapeEq : node.shape = .array (some items)) :
    node.chainEnd = items.chainEnd := by
  obtain ⟨first, rest, chainEq⟩ := List.exists_cons_of_ne_nil items.itemsChain_ne_nil
  simp only [chainEnd, itemsChain_of_array shapeEq, chainEq, List.getLastD_cons]

theorem chainEnd_of_end {node : Node}
    (ends : ∀ items, node.shape ≠ .array (some items)) :
    node.chainEnd = node := by
  simp only [chainEnd, itemsChain_of_end ends, List.getLastD_cons, List.getLastD_nil]

theorem arrayRank_of_array {node items : Node}
    (shapeEq : node.shape = .array (some items)) :
    node.arrayRank = items.arrayRank + 1 := by
  simp [arrayRank, itemsChain_of_array shapeEq, shapeEq, Shape.isArray]

theorem arrayRank_of_end {node : Node}
    (ends : ∀ items, node.shape ≠ .array (some items)) :
    node.arrayRank = if node.shape.isArray then 1 else 0 := by
  simp [arrayRank, itemsChain_of_end ends, List.countP_cons]

end Node
end Schema
end SchemaClasses
