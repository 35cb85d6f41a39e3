import Mathlib.Logic.Function.Iterate
import SchemaClasses.Proofs.Member.Mapping
import SchemaClasses.Proofs.Schema.ItemsChain

/-!
# Types of mapped properties

A property is mapped exactly if its key gives a member name, the end of its chain of items is
supported, and its default fits the type.  The type is then read off the chain: the end gives the
base type, and every array on the way adds one rank.
-/

namespace SchemaClasses
namespace Descriptor

open Schema

/-- The type of dictionary values.  A value schema with one of three names keeps its type. -/
def valueType (values : Node) : Target :=
  match values.declaredTypes with
  | [.object] =>
      match values.trimmedTitle? with
      | some title => .object (Naming.className title)
      | none => .scalar .any
  | [.string] => .scalar .string
  | [.integer] => .scalar .integer
  | _ => .scalar .any

/-- The type that the end of a chain of items gives. -/
def baseTarget (last : Node) : Target :=
  match last.shape with
  | .array _ => .scalar .any
  | .dictionary values => .dictionary (valueType values)
  | .enumeration fallback => scalarTarget fallback
  | _ => scalarTarget last

/-- The type that a whole chain of items gives. -/
def mappedTarget (node : Node) : Target :=
  Target.arrayOf^[node.arrayRank] (baseTarget node.chainEnd)

/-- The value schemas that dictionaries are made of. -/
structure SupportedValues (values : Node) : Prop where
  noReference : values.reference = none
  declared : ∀ name ∈ [TypeName.number, .boolean, .array, .null], values.declaredTypes ≠ [name]

/-- The ends of chains of items that types are made of. -/
structure SupportedEnd (last : Node) : Prop where
  noReference : ∀ target, last.shape ≠ .reference target
  placed : last.shape ≠ .misplacedDictionary
  values : ∀ values, last.shape = .dictionary values → SupportedValues values

/-- The properties that members are made of. -/
structure Supported (key : String) (node : Node) : Prop where
  memberName : Naming.isMemberName (Naming.publicName key) = true
  chainEnd : SupportedEnd node.chainEnd
  default : ∀ value, node.defaultKeyword = some value →
    value = .null ∨ ∃ literal, Literal.ofValue? (mappedTarget node) value = some literal

theorem dictionaryValueTarget_eq_ok_iff {values : Node} {pointer : Pointer} {target : Target} :
    dictionaryValueTarget values pointer = .ok target ↔
      SupportedValues values ∧ target = valueType values := by
  unfold dictionaryValueTarget valueType
  cases named : values.reference with
  | some name =>
      constructor
      · intro mapped
        nomatch mapped
      · rintro ⟨supported, -⟩
        rw [supported.noReference] at named
        nomatch named
  | none =>
      have supportedIff : SupportedValues values ↔
          ∀ name ∈ [TypeName.number, .boolean, .array, .null], values.declaredTypes ≠ [name] :=
        ⟨SupportedValues.declared, fun declared => ⟨named, declared⟩⟩
      rw [supportedIff]
      match types : values.declaredTypes with
      | [] => simp [eq_comm]
      | [.object] =>
          have notRefused : ∀ name ∈ [TypeName.number, .boolean, .array, .null],
              [TypeName.object] ≠ [name] := by
            decide
          simp only [Except.ok.injEq, objectTarget, @eq_comm _ target]
          exact (and_iff_right notRefused).symm
      | [.string] | [.integer] => simp [eq_comm]
      | [.number] | [.boolean] | [.array] | [.null] => simp
      | _ :: _ :: _ => simp [eq_comm]

theorem mappedTarget_of_array {node items : Node} (shapeEq : node.shape = .array (some items)) :
    mappedTarget node = .arrayOf (mappedTarget items) := by
  simp only [mappedTarget, Node.arrayRank_of_array shapeEq, Node.chainEnd_of_array shapeEq,
    Function.iterate_succ_apply']

theorem mappedTarget_of_end {node : Node} (ends : ∀ items, node.shape ≠ .array items) :
    mappedTarget node = baseTarget node := by
  have endsAtNode : ∀ items, node.shape ≠ .array (some items) := fun items => ends (some items)
  have notArray : node.shape.isArray = false := by
    cases shapeEq : node.shape with
    | array items => exact absurd shapeEq (ends items)
    | _ => rfl
  simp [mappedTarget, Node.arrayRank_of_end endsAtNode, Node.chainEnd_of_end endsAtNode, notArray]

theorem mappedTarget_of_array_none {node : Node} (shapeEq : node.shape = .array none) :
    mappedTarget node = .arrayOf (.scalar .any) := by
  have endsAtNode : ∀ items, node.shape ≠ .array (some items) := by
    intro items otherEq
    rw [shapeEq] at otherEq
    nomatch otherEq
  simp only [mappedTarget, Node.arrayRank_of_end endsAtNode, Node.chainEnd_of_end endsAtNode,
    baseTarget, shapeEq, Shape.isArray, if_true, Function.iterate_one]

/-- Which ends are supported, shape by shape. -/
theorem supportedEnd_iff {last : Node} :
    SupportedEnd last ↔
      match last.shape with
      | .reference _ => False
      | .misplacedDictionary => False
      | .dictionary values => SupportedValues values
      | _ => True := by
  constructor
  · intro supported
    split
    · next target shapeEq => exact supported.noReference target shapeEq
    · next shapeEq => exact supported.placed shapeEq
    · next values shapeEq => exact supported.values values shapeEq
    · trivial
  · intro supported
    cases shapeEq : last.shape with
    | reference target => simp [shapeEq] at supported
    | misplacedDictionary => simp [shapeEq] at supported
    | dictionary values =>
        simp only [shapeEq] at supported
        exact ⟨by simp [shapeEq], by simp [shapeEq], by simpa [shapeEq] using supported⟩
    | _ => exact ⟨by simp [shapeEq], by simp [shapeEq], by simp [shapeEq]⟩

/-- The elements of an array have the type of their chain of items, and nothing else. -/
theorem ofElement_eq_ok_iff {node : Node} {pointer : Pointer} {element : Descriptor} :
    ofElement node pointer = .ok element ↔
      SupportedEnd node.chainEnd ∧ element = bare (mappedTarget node) := by
  fun_induction ofElement node pointer generalizing element with
  | case1 node pointer named shapeEq =>
      rw [Node.chainEnd_of_end (by simp [shapeEq])]
      simp [supportedEnd_iff, shapeEq]
  | case2 node pointer shapeEq =>
      rw [Node.chainEnd_of_end (by simp [shapeEq])]
      simp [supportedEnd_iff, shapeEq]
  | case3 node pointer items shapeEq ih =>
      rw [Node.chainEnd_of_array shapeEq, mappedTarget_of_array shapeEq, Steps.map_eq_ok_iff]
      simp only [ih, and_assoc, exists_and_left, exists_eq_left, Target.arrayOf, eq_comm]
  | case4 node pointer shapeEq =>
      rw [Node.chainEnd_of_end (by simp [shapeEq]), mappedTarget_of_array_none shapeEq]
      simp [supportedEnd_iff, shapeEq, eq_comm]
  | case5 node pointer values shapeEq =>
      rw [Node.chainEnd_of_end (by simp [shapeEq]), mappedTarget_of_end (by simp [shapeEq]),
        Steps.map_eq_ok_iff]
      simp only [supportedEnd_iff, shapeEq, baseTarget]
      constructor
      · rintro ⟨value, mapped, rfl⟩
        obtain ⟨supported, rfl⟩ := dictionaryValueTarget_eq_ok_iff.mp mapped
        exact ⟨supported, rfl⟩
      · rintro ⟨supported, rfl⟩
        exact ⟨_, dictionaryValueTarget_eq_ok_iff.mpr ⟨supported, rfl⟩, rfl⟩
  | case6 node pointer fallback shapeEq =>
      rw [Node.chainEnd_of_end (by simp [shapeEq]), mappedTarget_of_end (by simp [shapeEq])]
      simp [supportedEnd_iff, shapeEq, baseTarget, eq_comm]
  | case7 node pointer shapeEq =>
      rw [Node.chainEnd_of_end (by simp [shapeEq]), mappedTarget_of_end (by simp [shapeEq])]
      simp [supportedEnd_iff, shapeEq, baseTarget, eq_comm]

/-- An array and its items have the same end, and the array has one rank more. -/
theorem ofItems_eq_ok_iff {node : Node} {items : Option Node} {pointer : Pointer}
    {element : Descriptor} (shapeEq : node.shape = .array items) :
    ofItems items pointer = .ok element ↔
      SupportedEnd node.chainEnd ∧ mappedTarget node = .array element := by
  cases items with
  | none =>
      rw [Node.chainEnd_of_end (by simp [shapeEq]), mappedTarget_of_array_none shapeEq]
      simp [ofItems, supportedEnd_iff, shapeEq, Target.arrayOf]
  | some items =>
      rw [Node.chainEnd_of_array shapeEq, mappedTarget_of_array shapeEq]
      simp only [ofItems, ofElement_eq_ok_iff, Target.arrayOf, Target.array.injEq,
        @eq_comm _ element]

/-- Dictionaries have no literals, so that their default is null if there is one. -/
theorem defaultFits_dictionary_iff {node : Node} {value : Target} :
    DefaultFits node (.dictionary value) ↔ node.initialValue? = none := by
  constructor
  · intro fits
    cases initialEq : node.initialValue? with
    | none => rfl
    | some initial =>
        obtain ⟨literal, converted⟩ := fits initial initialEq
        simp [Literal.ofValue?] at converted
  · intro initialEq initial otherEq
    rw [initialEq] at otherEq
    cases otherEq

theorem ofScalar_hasTarget_iff {node source : Node} {pointer : Pointer} {target : Target} :
    (∃ descriptor, ofScalar node source pointer = .ok descriptor ∧ descriptor.target = target) ↔
      DefaultFits node target ∧ target = scalarTarget source := by
  simp only [ofScalar_eq_ok_iff]
  constructor
  · rintro ⟨descriptor, ⟨fits, rfl⟩, rfl⟩
    exact ⟨fits, rfl⟩
  · rintro ⟨fits, rfl⟩
    exact ⟨_, ⟨fits, rfl⟩, rfl⟩

theorem ofShape_hasTarget_iff {publicName : String} {node : Node} {pointer : Pointer}
    {target : Target} :
    (∃ descriptor, ofShape publicName node pointer = .ok descriptor ∧
        descriptor.target = target) ↔
      SupportedEnd node.chainEnd ∧ DefaultFits node target ∧ target = mappedTarget node := by
  unfold ofShape
  cases shapeEq : node.shape with
  | reference named =>
      rw [Node.chainEnd_of_end (by simp [shapeEq]), supportedEnd_iff]
      simp [shapeEq]
  | misplacedDictionary =>
      rw [Node.chainEnd_of_end (by simp [shapeEq]), supportedEnd_iff]
      simp [shapeEq]
  | array items =>
      constructor
      · rintro ⟨descriptor, mapped, rfl⟩
        obtain ⟨element, elementEq, fits, rfl⟩ := ofArray_eq_ok_iff.mp mapped
        obtain ⟨supported, targetEq⟩ := (ofItems_eq_ok_iff shapeEq).mp elementEq
        exact ⟨supported, fits, targetEq.symm⟩
      · rintro ⟨supported, fits, targetEq⟩
        obtain ⟨element, rfl⟩ : ∃ element, target = .array element := by
          cases items with
          | none => exact ⟨_, targetEq.trans (mappedTarget_of_array_none shapeEq)⟩
          | some items => exact ⟨_, targetEq.trans (mappedTarget_of_array shapeEq)⟩
        have elementEq : ofItems items pointer = .ok element :=
          (ofItems_eq_ok_iff shapeEq).mpr ⟨supported, targetEq.symm⟩
        exact ⟨_, ofArray_eq_ok_iff.mpr ⟨element, elementEq, fits, rfl⟩, rfl⟩
  | dictionary values =>
      rw [Node.chainEnd_of_end (by simp [shapeEq]), mappedTarget_of_end (by simp [shapeEq]),
        supportedEnd_iff]
      simp only [shapeEq, baseTarget]
      constructor
      · rintro ⟨descriptor, mapped, rfl⟩
        obtain ⟨initialEq, value, valueEq, rfl⟩ := ofDictionary_eq_ok_iff.mp mapped
        obtain ⟨supported, rfl⟩ := dictionaryValueTarget_eq_ok_iff.mp valueEq
        exact ⟨supported, defaultFits_dictionary_iff.mpr initialEq, rfl⟩
      · rintro ⟨supported, fits, rfl⟩
        have valueEq : dictionaryValueTarget values (pointer.child "additionalProperties") =
            .ok (valueType values) := dictionaryValueTarget_eq_ok_iff.mpr ⟨supported, rfl⟩
        have initialEq := defaultFits_dictionary_iff.mp fits
        exact ⟨_, ofDictionary_eq_ok_iff.mpr ⟨initialEq, _, valueEq, rfl⟩, rfl⟩
  | enumeration fallback =>
      rw [Node.chainEnd_of_end (by simp [shapeEq]), mappedTarget_of_end (by simp [shapeEq]),
        supportedEnd_iff]
      simp only [shapeEq, baseTarget, true_and]
      exact ofScalar_hasTarget_iff
  | scalar =>
      rw [Node.chainEnd_of_end (by simp [shapeEq]), mappedTarget_of_end (by simp [shapeEq]),
        supportedEnd_iff]
      simp only [shapeEq, baseTarget, true_and]
      exact ofScalar_hasTarget_iff

theorem target_eq_mappedTarget {key : String} {node : Node} {requiredByParent : Bool}
    {pointer : Pointer} {descriptor : Descriptor}
    (mapped : ofProperty key node requiredByParent pointer = .ok descriptor) :
    descriptor.target = mappedTarget node := by
  obtain ⟨-, shaped, shapedEq, rfl⟩ := ofProperty_eq_ok_iff.mp mapped
  exact (ofShape_hasTarget_iff.mp ⟨shaped, shapedEq, rfl⟩).2.2

theorem Supported.defaultFits {key : String} {node : Node} (supported : Supported key node) :
    DefaultFits node (mappedTarget node) := by
  intro value initialEq
  obtain ⟨keywordEq, notNull⟩ := Node.initialValue?_eq_some_iff.mp initialEq
  rcases supported.default value keywordEq with rfl | converted
  · simp [Json.Value.isNull] at notNull
  · exact converted

theorem default_of_defaultFits {node : Node} {target : Target} (fits : DefaultFits node target)
    (value : Json.Value) (keywordEq : node.defaultKeyword = some value) :
    value = .null ∨ ∃ literal, Literal.ofValue? target value = some literal := by
  cases nullEq : value.isNull with
  | true => exact Or.inl (Json.Value.isNull_iff.mp nullEq)
  | false => exact Or.inr (fits value (Node.initialValue?_eq_some_iff.mpr ⟨keywordEq, nullEq⟩))

/-- A property is mapped exactly if it is supported, and then to the type which its chain of items
gives.  Whether the enclosing object requires it plays no part, nor does its place. -/
theorem ofProperty_hasTarget_iff (key : String) (node : Node) (requiredByParent : Bool)
    (pointer : Pointer) (target : Target) :
    (∃ descriptor, ofProperty key node requiredByParent pointer = .ok descriptor ∧
        descriptor.target = target) ↔
      Supported key node ∧ target = mappedTarget node := by
  have shapeIff :
      (∃ descriptor, ofShape (Naming.publicName key) node pointer = .ok descriptor ∧
          descriptor.target = target) ↔
        SupportedEnd node.chainEnd ∧ DefaultFits node target ∧ target = mappedTarget node :=
    ofShape_hasTarget_iff
  constructor
  · rintro ⟨descriptor, mapped, rfl⟩
    obtain ⟨memberName, shaped, shapedEq, rfl⟩ := ofProperty_eq_ok_iff.mp mapped
    obtain ⟨supported, fits, targetEq⟩ := shapeIff.mp ⟨shaped, shapedEq, rfl⟩
    refine ⟨⟨memberName, supported, ?_⟩, targetEq⟩
    rw [← targetEq]
    exact default_of_defaultFits fits
  · rintro ⟨supported, targetEq⟩
    have fits : DefaultFits node target := targetEq ▸ supported.defaultFits
    obtain ⟨shaped, shapedEq, rfl⟩ := shapeIff.mpr ⟨supported.chainEnd, fits, targetEq⟩
    exact ⟨_, ofProperty_eq_ok_iff.mpr ⟨supported.memberName, shaped, shapedEq, rfl⟩, rfl⟩

end Descriptor
end SchemaClasses
