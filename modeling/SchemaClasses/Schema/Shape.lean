import SchemaClasses.Schema.Node

/-!
# Shapes of schema nodes

Every node has exactly one shape, which decides how a property with that schema is mapped.  A
reference goes before everything, then a schema for additional properties, then arrays, then
enumerations.
-/

namespace SchemaClasses
namespace Schema

inductive Shape where
  | reference (target : String)
  | array (items : Option Node)
  /-- Single values besides one branch with a type, which is the fallback. -/
  | enumeration (fallback : Node)
  | dictionary (values : Node)
  /-- A schema for additional properties on what is not an object. -/
  | misplacedDictionary
  | scalar

namespace Node

/-- Whether a branch of `anyOf` stands for one value. -/
def isValueBranch (branch : Node) : Bool :=
  branch.typeKeyword.isNone &&
    ((branch.enumeration.any fun values => values.length = 1) || branch.constant.isSome)

/-- The only branch with a type, if there are other branches and each stands for one value. -/
def enumerationFallback? (node : Node) : Option Node :=
  if node.typeKeyword.isSome then none
  else
    match node.anyOf.partition fun branch => branch.typeKeyword.isSome with
    | ([fallback], value :: values) =>
        if (value :: values).all isValueBranch then some fallback else none
    | _ => none

def shape (node : Node) : Shape :=
  match node.reference with
  | some target => .reference target
  | none =>
      match node.additional with
      | some (.schema values) =>
          if node.isObjectTyped then .dictionary values else .misplacedDictionary
      | _ =>
          if node.isSingleType .array then .array node.items
          else
            match node.enumerationFallback? with
            | some fallback => .enumeration fallback
            | none => .scalar

/-- The place among the branches of the first one with a type. -/
def typedBranchIndex (node : Node) : Nat :=
  node.anyOf.findIdx fun branch => branch.typeKeyword.isSome

/-- The items of an array are part of its node. -/
theorem items_of_shape_array {node : Node} {items : Option Node}
    (shapeEq : node.shape = .array items) : node.items = items := by
  unfold shape at shapeEq
  split at shapeEq
  · nomatch shapeEq
  · split at shapeEq
    · split at shapeEq <;> nomatch shapeEq
    · split at shapeEq
      · injection shapeEq
      · split at shapeEq <;> nomatch shapeEq

theorem sizeOf_items_lt {node items : Node} (itemsEq : node.items = some items) :
    sizeOf items < sizeOf node := by
  cases node with
  | mk title description typeKeyword properties required itemsField additional defaultKeyword
      reference enumeration constant allOf anyOf =>
    subst itemsEq
    simp only [mk.sizeOf_spec, Option.some.sizeOf_spec]
    omega

end Node
end Schema
end SchemaClasses
