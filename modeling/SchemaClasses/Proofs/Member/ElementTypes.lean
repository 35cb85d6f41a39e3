import SchemaClasses.Proofs.Member.MappedTypes
import SchemaClasses.Proofs.Member.Parts
import SchemaClasses.Proofs.Schema.TypedAlike

/-!
# Types of elements

The elements of an array have a type and nothing else: their descriptors are bare, at every depth.
So the keywords of their schemas that play no part in a type, such as a default or a list of
required keys, change neither the descriptor of the array nor what stands in its way.
-/

namespace SchemaClasses

/-- The descriptors of the elements of an array, of the elements of these, and so on. -/
def Target.elements : Target → List Descriptor
  | .array element@⟨target, _, _, _⟩ => element :: target.elements
  | _ => []

theorem Target.elements_arrayOf (element : Target) :
    (arrayOf element).elements = .bare element :: element.elements :=
  rfl

namespace Descriptor

open Schema

variable {first second : Node} {items others : Option Node}

/-- The descriptor of elements by the shape of their schema. -/
theorem ofElement_eq_match (node : Node) (pointer : Pointer) :
    ofElement node pointer =
      match node.shape with
      | .reference target => .error ⟨pointer, .reference target⟩
      | .misplacedDictionary =>
          .error ⟨pointer.child "additionalProperties", .dictionaryOnNonObject⟩
      | .array (some items) =>
          (ofElement items (pointer.child "items")).map fun element => bare (.array element)
      | .array none => .ok (bare (.arrayOf (.scalar .any)))
      | .dictionary values =>
          (dictionaryValueTarget values (pointer.child "additionalProperties")).map fun value =>
            bare (.dictionary value)
      | .enumeration fallback => .ok (bare (scalarTarget fallback))
      | .scalar => .ok (bare (scalarTarget node)) := by
  rw [ofElement]
  split <;> rename_i shapeEq <;> rw [shapeEq]

theorem objectTarget_of_typedAlike (alike : TypedAlike first second) :
    objectTarget first = objectTarget second := by
  rw [objectTarget, objectTarget, alike.trimmedTitle?_eq]

theorem scalarTarget_of_typedAlike (alike : TypedAlike first second) :
    scalarTarget first = scalarTarget second := by
  rw [scalarTarget, scalarTarget, alike.declaredTypes_eq, objectTarget_of_typedAlike alike]

theorem dictionaryValueTarget_of_typedAlike (alike : TypedAlike first second)
    (pointer : Pointer) :
    dictionaryValueTarget first pointer = dictionaryValueTarget second pointer := by
  rw [dictionaryValueTarget, dictionaryValueTarget, alike.reference, alike.declaredTypes_eq,
    objectTarget_of_typedAlike alike]

/-- Arrays of arrays have the same elements at every depth. -/
theorem ofElement_of_typedAlike {first second : Node} (alike : TypedAlike first second)
    (pointer : Pointer) : ofElement first pointer = ofElement second pointer := by
  have shapes := alike.shape
  rw [ofElement_eq_match first, ofElement_eq_match second]
  generalize shapeEq : first.shape = firstShape at shapes ⊢
  generalize second.shape = secondShape at shapes ⊢
  cases shapes with
  | reference target => rfl
  | misplacedDictionary => rfl
  | array items =>
      cases items with
      | none => rfl
      | some items =>
          simp only
          rw [ofElement_of_typedAlike items (pointer.child "items")]
  | dictionary values =>
      simp only
      rw [dictionaryValueTarget_of_typedAlike values]
  | enumeration fallback =>
      simp only
      rw [scalarTarget_of_typedAlike fallback]
  | scalar =>
      simp only
      rw [scalarTarget_of_typedAlike alike]
termination_by sizeOf first
decreasing_by exact Node.sizeOf_items_lt (Node.items_of_shape_array shapeEq)

theorem ofItems_of_typedAlike (alike : Option.Rel TypedAlike items others) (pointer : Pointer) :
    ofItems items pointer = ofItems others pointer := by
  cases alike with
  | none => rfl
  | some items => exact ofElement_of_typedAlike items _

/-- A descriptor depends on the type, the default and whether any key is required. -/
theorem ofShape_of_typedAlike (alike : TypedAlike first second)
    (initialEq : first.initialValue? = second.initialValue?)
    (required : first.required = second.required) (publicName : String) (pointer : Pointer) :
    ofShape publicName first pointer = ofShape publicName second pointer := by
  have defaultEq : ∀ {α : Type} (target : Target) (convert : Json.Value → Option α),
      explicitDefault first target pointer convert =
        explicitDefault second target pointer convert := by
    intro α target convert
    rw [explicitDefault, explicitDefault, initialEq]
  have shapes := alike.shape
  rw [ofShape, ofShape]
  generalize first.shape = firstShape at shapes ⊢
  generalize second.shape = secondShape at shapes ⊢
  cases shapes with
  | reference target => rfl
  | misplacedDictionary => rfl
  | array items => simp only [ofArray, ofItems_of_typedAlike items, defaultEq]
  | dictionary values =>
      simp only [ofDictionary, initialEq, dictionaryValueTarget_of_typedAlike values]
  | enumeration fallback =>
      simp only [ofScalar, scalarTarget_of_typedAlike fallback, defaultEq, required]
  | scalar => simp only [ofScalar, scalarTarget_of_typedAlike alike, defaultEq, required]

theorem ofProperty_of_typedAlike (alike : TypedAlike first second)
    (initialEq : first.initialValue? = second.initialValue?)
    (required : first.required = second.required) (key : String) (requiredByParent : Bool)
    (pointer : Pointer) :
    ofProperty key first requiredByParent pointer =
      ofProperty key second requiredByParent pointer := by
  simp only [ofProperty, ofShape_of_typedAlike alike initialEq required]

/-- The elements at every depth carry a type alone.  It is the type that their schema on the chain
of items has by itself, and any type where the schema is missing. -/
structure HasBareElements (node : Node) (descriptor : Descriptor) : Prop where
  bare : ∀ element ∈ descriptor.target.elements,
    element.initial = none ∧ element.attributes = [] ∧ element.predicates = []
  targets : descriptor.target.elements.map target =
    node.itemsChain.tail.map mappedTarget ++
      if node.chainEnd.shape.isArray then [.scalar .any] else []

theorem elements_scalarTarget (node : Node) : (scalarTarget node).elements = [] := by
  rcases scalarTarget_eq node with ⟨kind, targetEq⟩ | ⟨className, targetEq⟩
  · rw [targetEq]
    rfl
  · rw [targetEq]
    rfl

theorem elements_baseTarget (node : Node) : (baseTarget node).elements = [] := by
  unfold baseTarget
  split
  · rfl
  · rfl
  · exact elements_scalarTarget _
  · exact elements_scalarTarget _

/-- Each array on a chain of items has the bare type of its items for an element. -/
theorem elements_mappedTarget (node : Node) :
    (mappedTarget node).elements =
      (node.itemsChain.tail.map mappedTarget ++
        if node.chainEnd.shape.isArray then [Target.scalar .any] else []).map bare := by
  cases shapeEq : node.shape with
  | array items =>
      cases items with
      | some items =>
          rw [mappedTarget_of_array shapeEq, Node.chainEnd_of_array shapeEq,
            Node.itemsChain_of_array shapeEq, Target.elements_arrayOf, elements_mappedTarget items,
            List.tail_cons, items.itemsChain_eq_cons, List.map_cons, List.tail_cons,
            List.cons_append, List.map_cons]
      | none =>
          rw [mappedTarget_of_array_none shapeEq, Node.chainEnd_of_end (by simp [shapeEq]),
            Node.itemsChain_of_end (by simp [shapeEq]), shapeEq]
          rfl
  | _ =>
      rw [mappedTarget_of_end (by simp [shapeEq]), elements_baseTarget,
        Node.chainEnd_of_end (by simp [shapeEq]), Node.itemsChain_of_end (by simp [shapeEq]),
        shapeEq]
      rfl
termination_by sizeOf node
decreasing_by exact Node.sizeOf_items_lt (Node.items_of_shape_array shapeEq)

theorem hasBareElements_of_ofProperty {key : String} {node : Node} {requiredByParent : Bool}
    {pointer : Pointer} {descriptor : Descriptor}
    (mapped : ofProperty key node requiredByParent pointer = .ok descriptor) :
    HasBareElements node descriptor := by
  have elementsEq := congrArg Target.elements (target_eq_mappedTarget mapped)
  rw [elements_mappedTarget] at elementsEq
  constructor
  · intro element member
    rw [elementsEq] at member
    obtain ⟨target, -, rfl⟩ := List.mem_map.mp member
    exact ⟨rfl, rfl, rfl⟩
  · rw [elementsEq, List.map_map]
    exact List.map_id _

/-- The elements of an array contribute a type and nothing more: to its descriptor, and to whether
it has one.  Whatever else their schemas hold may change, at every depth. -/
theorem ofProperty_array_ofElementTypes (key : String) {node : Node}
    (isArray : node.shape = .array items) (requiredByParent : Bool) (pointer : Pointer) :
    (∀ descriptor, ofProperty key node requiredByParent pointer = .ok descriptor →
      HasBareElements node descriptor) ∧
    ∀ others, Option.Rel TypedAlike items others →
      ofProperty key { node with items := others } requiredByParent pointer =
        ofProperty key node requiredByParent pointer := by
  refine ⟨fun descriptor mapped => hasBareElements_of_ofProperty mapped, fun others alike => ?_⟩
  obtain rfl := Node.items_of_shape_array isArray
  have alikeNode : TypedAlike node { node with items := others } :=
    .untyped_keywords node.defaultKeyword node.constant node.required node.description
      node.properties node.allOf node.enumeration alike
  exact (ofProperty_of_typedAlike alikeNode rfl rfl key requiredByParent pointer).symm

/-- Rows of texts. -/
def plainRows : Node :=
  { Node.empty with
    typeKeyword := some (.single .array)
    items := some { Node.empty with typeKeyword := some (.single .string) } }

/-- Rows of texts, with a list of required keys, a default that fits no text and further
keywords. -/
def ladenRows : Node :=
  { Node.empty with
    typeKeyword := some (.single .array)
    description := some "A row."
    required := ["first"]
    defaultKeyword := some (.boolean true)
    properties := [("2d", { Node.empty with reference := some "point.schema.json" })]
    items := some { Node.empty with
      typeKeyword := some (.single .string)
      required := ["a"]
      defaultKeyword := some (.array [])
      enumeration := some [.string "x"]
      constant := some (.boolean false)
      allOf := [{ Node.empty with reference := some "text.schema.json" }] } }

/-- A table with the given rows. -/
def tableOf (rows : Node) : Node :=
  { Node.empty with typeKeyword := some (.single .array), items := some rows }

theorem typedAlike_rows : TypedAlike plainRows ladenRows :=
  .untyped_keywords _ _ _ _ _ _ _ (.some (.untyped_keywords _ _ _ _ _ _ _ .none))

theorem ofProperty_tableOf_rows :
    (tableOf plainRows).shape = .array (some plainRows) ∧
      Option.Rel TypedAlike (some plainRows) (some ladenRows) ∧
      ofProperty "table" (tableOf ladenRows) true Pointer.root =
        ofProperty "table" (tableOf plainRows) true Pointer.root ∧
      ∃ descriptor, ofProperty "table" (tableOf ladenRows) true Pointer.root = .ok descriptor ∧
        descriptor.target = .arrayOf (.arrayOf (.scalar .string)) ∧
        HasBareElements (tableOf ladenRows) descriptor := by
  have textEq : (ofProperty "table" (tableOf ladenRows) true Pointer.root).toOption.map
      (fun descriptor => descriptor.target.text) = some "array of array of string" := by
    decide +kernel
  obtain ⟨descriptor, mapped, -⟩ := Steps.toOption_map_eq_some_iff.mp textEq
  have targetEq : descriptor.target = .arrayOf (.arrayOf (.scalar .string)) := by
    rw [target_eq_mappedTarget mapped, mappedTarget_of_array rfl, mappedTarget_of_array rfl,
      mappedTarget_of_end (by rintro _ ⟨⟩)]
    rfl
  have plainIsArray : (tableOf plainRows).shape = .array (some plainRows) := rfl
  have ladenIsArray : (tableOf ladenRows).shape = .array (some ladenRows) := rfl
  obtain ⟨-, sameAs⟩ := ofProperty_array_ofElementTypes "table" plainIsArray true Pointer.root
  obtain ⟨bareElements, -⟩ := ofProperty_array_ofElementTypes "table" ladenIsArray true Pointer.root
  exact ⟨plainIsArray, .some typedAlike_rows, sameAs _ (.some typedAlike_rows), descriptor, mapped,
    targetEq, bareElements descriptor mapped⟩

end Descriptor
end SchemaClasses
