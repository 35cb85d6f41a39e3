import SchemaClasses.Schema.Shape

/-!
# What a shape says of a node

A shape is decided by a few keywords, one after the other.  For every shape this module lists what
its nodes have, so that no other proof goes through the decision again.
-/

namespace SchemaClasses
namespace Schema
namespace Node

variable {node values : Node} {target : String} {shape : Shape}

/-- What the keywords of a node of the given shape are. -/
inductive HasShape (node : Node) : Shape → Prop
  | reference {target : String} (named : node.reference = some target) :
      HasShape node (.reference target)
  | dictionary {values : Node} (unreferenced : node.reference = none)
      (additionalEq : node.additional = some (.schema values))
      (objectTyped : node.isObjectTyped = true) : HasShape node (.dictionary values)
  | misplacedDictionary {values : Node} (unreferenced : node.reference = none)
      (additionalEq : node.additional = some (.schema values))
      (notObject : node.isObjectTyped = false) : HasShape node .misplacedDictionary
  | array (unreferenced : node.reference = none)
      (noDictionary : ∀ values, node.additional ≠ some (.schema values))
      (arrayTyped : node.isSingleType .array = true) : HasShape node (.array node.items)
  | enumeration {fallback : Node} (unreferenced : node.reference = none)
      (noDictionary : ∀ values, node.additional ≠ some (.schema values))
      (notArray : node.isSingleType .array = false)
      (found : node.enumerationFallback? = some fallback) : HasShape node (.enumeration fallback)
  | scalar (unreferenced : node.reference = none)
      (noDictionary : ∀ values, node.additional ≠ some (.schema values))
      (notArray : node.isSingleType .array = false)
      (notFound : node.enumerationFallback? = none) : HasShape node .scalar

theorem hasShape_shape (node : Node) : HasShape node node.shape := by
  unfold Node.shape
  split
  · next named => exact .reference named
  · next unreferenced =>
      split
      · next additionalEq =>
          split
          · next objectTyped => exact .dictionary unreferenced additionalEq objectTyped
          · next notObject =>
              exact .misplacedDictionary unreferenced additionalEq (by simpa using notObject)
      · next noDictionary =>
          split
          · next arrayTyped => exact .array unreferenced noDictionary arrayTyped
          · next notArray =>
              have notArray : node.isSingleType .array = false := by simpa using notArray
              split
              · next found => exact .enumeration unreferenced noDictionary notArray found
              · next notFound => exact .scalar unreferenced noDictionary notArray notFound

theorem shape_of_noDictionary (unreferenced : node.reference = none)
    (noDictionary : ∀ values, node.additional ≠ some (.schema values)) :
    node.shape =
      if node.isSingleType .array then .array node.items
      else node.enumerationFallback?.elim .scalar .enumeration := by
  unfold Node.shape
  rw [unreferenced]
  cases additionalEq : node.additional with
  | none => cases node.enumerationFallback? <;> rfl
  | some additional =>
      cases additional with
      | allowed permitted => cases node.enumerationFallback? <;> rfl
      | schema values => exact absurd additionalEq (noDictionary values)

theorem shape_eq_of_hasShape (hasShape : HasShape node shape) : node.shape = shape := by
  cases hasShape with
  | reference named => simp [Node.shape, named]
  | dictionary unreferenced additionalEq objectTyped =>
      simp [Node.shape, unreferenced, additionalEq, objectTyped]
  | misplacedDictionary unreferenced additionalEq notObject =>
      simp [Node.shape, unreferenced, additionalEq, notObject]
  | array unreferenced noDictionary arrayTyped =>
      simp [shape_of_noDictionary unreferenced noDictionary, arrayTyped]
  | enumeration unreferenced noDictionary notArray found =>
      simp [shape_of_noDictionary unreferenced noDictionary, notArray, found]
  | scalar unreferenced noDictionary notArray notFound =>
      simp [shape_of_noDictionary unreferenced noDictionary, notArray, notFound]

theorem shape_eq_iff : node.shape = shape ↔ HasShape node shape := by
  constructor
  · rintro rfl
    exact hasShape_shape node
  · exact shape_eq_of_hasShape

/-- A node that names another one is a reference, whatever else it holds. -/
theorem shape_eq_reference_iff :
    node.shape = .reference target ↔ node.reference = some target := by
  rw [shape_eq_iff]
  constructor
  · rintro ⟨named⟩
    exact named
  · exact .reference

/-- A dictionary is an object with a schema for additional properties. -/
theorem additional_of_shape_dictionary (shapeEq : node.shape = .dictionary values) :
    node.additional = some (.schema values) ∧ node.isObjectTyped = true := by
  cases shape_eq_iff.mp shapeEq with
  | dictionary unreferenced additionalEq objectTyped => exact ⟨additionalEq, objectTyped⟩

theorem additional_of_shape_misplaced (shapeEq : node.shape = .misplacedDictionary) :
    ∃ values, node.additional = some (.schema values) ∧ node.isObjectTyped = false := by
  cases shape_eq_iff.mp shapeEq with
  | misplacedDictionary unreferenced additionalEq notObject => exact ⟨_, additionalEq, notObject⟩

end Node
end Schema
end SchemaClasses
