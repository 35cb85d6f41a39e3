import SchemaClasses.Member.Mapping
import SchemaClasses.Proofs.Steps

/-!
# What the mapping rules give

Each rule of the mapping succeeds under one condition, gives one descriptor when it does, and names
one place in the schema when it does not.
-/

namespace SchemaClasses

theorem Json.Value.isNull_iff {value : Json.Value} : value.isNull = true ↔ value = .null := by
  cases value <;> simp [Json.Value.isNull]

namespace Schema.Node

theorem initialValue?_eq_some_iff {node : Node} {value : Json.Value} :
    node.initialValue? = some value ↔ node.defaultKeyword = some value ∧ value.isNull = false := by
  simp [initialValue?, Option.filter_eq_some_iff]

end Schema.Node

namespace Descriptor

open Schema

/-- The default of a node, if it has one that is not null, has a literal of the given type. -/
def DefaultFits (node : Node) (target : Target) : Prop :=
  ∀ value, node.initialValue? = some value →
    ∃ literal, Literal.ofValue? target value = some literal

section Defaults

variable {α : Type} {node : Node} {target : Target} {pointer : Pointer}
  {convert : Json.Value → Option α}

theorem explicitDefault_eq_ok_iff {result : Option α} :
    explicitDefault node target pointer convert = .ok result ↔
      (∀ value, node.initialValue? = some value → ∃ converted, convert value = some converted) ∧
        result = node.initialValue?.bind convert := by
  unfold explicitDefault
  cases initialEq : node.initialValue? with
  | none => simp [eq_comm]
  | some value =>
      cases convertedEq : convert value with
      | none => simp [convertedEq]
      | some converted => simp [convertedEq, eq_comm]

theorem explicitDefault_eq_error_iff {unsupported : Unsupported} :
    explicitDefault node target pointer convert = .error unsupported ↔
      ∃ value, node.initialValue? = some value ∧ convert value = none ∧
        unsupported = ⟨pointer.child "default", .defaultValue target value⟩ := by
  unfold explicitDefault
  cases initialEq : node.initialValue? with
  | none => simp
  | some value =>
      cases convertedEq : convert value with
      | none => simp [convertedEq, eq_comm]
      | some converted => simp [convertedEq]

end Defaults

/-- A literal for an array is a sequence of literals for its elements. -/
theorem ofValue?_array (element : Descriptor) (value : Json.Value) :
    Literal.ofValue? (.array element) value =
      (Literal.sequenceOf? element.target value).map .sequence := by
  cases element
  simp only [Literal.ofValue?, Literal.sequenceOf?]

theorem ofValue?_arrayOf (element : Target) (value : Json.Value) :
    Literal.ofValue? (.arrayOf element) value = (Literal.sequenceOf? element value).map .sequence :=
  ofValue?_array _ value

theorem defaultFits_array_iff {node : Node} {element : Descriptor} :
    DefaultFits node (.array element) ↔
      ∀ value, node.initialValue? = some value →
        ∃ literals, Literal.sequenceOf? element.target value = some literals := by
  unfold DefaultFits
  refine forall_congr' fun value => imp_congr_right fun _ => ?_
  rw [ofValue?_array]
  cases Literal.sequenceOf? element.target value <;> simp

variable {publicName key : String} {node source values : Node} {pointer : Pointer}
  {items : Option Node} {requiredByParent : Bool} {descriptor : Descriptor}
  {unsupported : Unsupported}

/-- The literals that an array with the given default starts with. -/
def startingLiterals (node : Node) (element : Target) : List Literal :=
  (node.initialValue?.bind (Literal.sequenceOf? element)).getD []

/-- A default that fits is converted to the literals that the array starts with. -/
theorem sequenceOf?_startingLiterals {element : Descriptor} {initial : Json.Value}
    (fits : DefaultFits node (.array element)) (initialEq : node.initialValue? = some initial) :
    Literal.sequenceOf? element.target initial = some (startingLiterals node element.target) := by
  obtain ⟨literals, literalsEq⟩ := defaultFits_array_iff.mp fits initial initialEq
  simp only [startingLiterals, initialEq, Option.bind_some, literalsEq, Option.getD_some]

theorem ofScalar_eq_ok_iff :
    ofScalar node source pointer = .ok descriptor ↔
      DefaultFits node (scalarTarget source) ∧
        descriptor = {
          target := scalarTarget source
          initial := node.initialValue?.bind (Literal.ofValue? (scalarTarget source))
          attributes := if node.required.isEmpty then [] else [.required]
          predicates := [] } := by
  unfold ofScalar
  simp only [Steps.bind_eq_ok_iff, explicitDefault_eq_ok_iff, Steps.pure_eq_ok_iff, DefaultFits]
  constructor
  · rintro ⟨initial, ⟨fits, rfl⟩, rfl⟩
    exact ⟨fits, rfl⟩
  · rintro ⟨fits, rfl⟩
    exact ⟨_, ⟨fits, rfl⟩, rfl⟩

theorem ofScalar_eq_error_iff :
    ofScalar node source pointer = .error unsupported ↔
      ∃ value, node.initialValue? = some value ∧
        Literal.ofValue? (scalarTarget source) value = none ∧
        unsupported = ⟨pointer.child "default", .defaultValue (scalarTarget source) value⟩ := by
  unfold ofScalar
  simp only [Steps.bind_eq_error_iff, explicitDefault_eq_error_iff]
  constructor
  · rintro (failed | ⟨initial, -, finished⟩)
    · exact failed
    · nomatch finished
  · exact Or.inl

theorem ofArray_eq_ok_iff :
    ofArray publicName node items pointer = .ok descriptor ↔
      ∃ element, ofItems items pointer = .ok element ∧ DefaultFits node (.array element) ∧
        descriptor = {
          target := .array element
          initial := some (.sequence (startingLiterals node element.target))
          attributes := []
          predicates :=
            [⟨Naming.predicateName publicName,
              .sequenceDiffers (Naming.backingName publicName)
                (startingLiterals node element.target)⟩] } := by
  unfold ofArray
  simp only [Steps.bind_eq_ok_iff, explicitDefault_eq_ok_iff, Steps.pure_eq_ok_iff,
    defaultFits_array_iff, startingLiterals]
  constructor
  · rintro ⟨element, mapped, converted, ⟨fits, rfl⟩, rfl⟩
    exact ⟨element, mapped, fits, rfl⟩
  · rintro ⟨element, mapped, fits, rfl⟩
    exact ⟨element, mapped, _, ⟨fits, rfl⟩, rfl⟩

theorem ofArray_eq_error_iff :
    ofArray publicName node items pointer = .error unsupported ↔
      ofItems items pointer = .error unsupported ∨
        ∃ element value, ofItems items pointer = .ok element ∧
          node.initialValue? = some value ∧ Literal.sequenceOf? element.target value = none ∧
          unsupported = ⟨pointer.child "default", .defaultValue (.array element) value⟩ := by
  unfold ofArray
  simp only [Steps.bind_eq_error_iff, explicitDefault_eq_error_iff]
  constructor
  · rintro (failed | ⟨element, mapped, ⟨value, initialEq, refused, rfl⟩ | ⟨_, -, finished⟩⟩)
    · exact Or.inl failed
    · exact Or.inr ⟨element, value, mapped, initialEq, refused, rfl⟩
    · nomatch finished
  · rintro (failed | ⟨element, value, mapped, initialEq, refused, rfl⟩)
    · exact Or.inl failed
    · exact Or.inr ⟨element, mapped, Or.inl ⟨value, initialEq, refused, rfl⟩⟩

theorem ofDictionary_eq_ok_iff :
    ofDictionary publicName node values pointer = .ok descriptor ↔
      node.initialValue? = none ∧
        ∃ value, dictionaryValueTarget values (pointer.child "additionalProperties") = .ok value ∧
          descriptor = {
            target := .dictionary value
            initial := none
            attributes := []
            predicates :=
              [⟨Naming.predicateName publicName,
                .notNull (Naming.backingName publicName)⟩] } := by
  unfold ofDictionary
  cases initialEq : node.initialValue? with
  | none =>
      simp only [Option.isSome_none, Bool.false_eq_true, if_false, Steps.bind_eq_ok_iff,
        Steps.pure_eq_ok_iff, true_and, @eq_comm _ _ descriptor]
  | some value => simp

theorem ofDictionary_eq_error_iff :
    ofDictionary publicName node values pointer = .error unsupported ↔
      (node.initialValue?.isSome ∧ unsupported = ⟨pointer.child "default", .dictionaryDefault⟩) ∨
        (node.initialValue? = none ∧
          dictionaryValueTarget values (pointer.child "additionalProperties") =
            .error unsupported) := by
  unfold ofDictionary
  cases initialEq : node.initialValue? with
  | none =>
      simp only [Option.isSome_none, Bool.false_eq_true, if_false, Steps.bind_eq_error_iff,
        false_and, false_or, true_and]
      constructor
      · rintro (failed | ⟨value, -, finished⟩)
        · exact failed
        · nomatch finished
      · exact Or.inl
  | some value => simp [eq_comm]

theorem ofProperty_eq_ok_iff :
    ofProperty key node requiredByParent pointer = .ok descriptor ↔
      Naming.isMemberName (Naming.publicName key) = true ∧
        ∃ shaped, ofShape (Naming.publicName key) node pointer = .ok shaped ∧
          descriptor = shaped.finalize key requiredByParent := by
  unfold ofProperty
  cases named : Naming.isMemberName (Naming.publicName key) with
  | false => simp only [named, Bool.false_eq_true, if_false, false_and, reduceCtorEq]
  | true =>
      simp only [named, if_true, Steps.bind_eq_ok_iff, Steps.pure_eq_ok_iff, true_and,
        @eq_comm _ _ descriptor]

theorem ofProperty_eq_error_iff :
    ofProperty key node requiredByParent pointer = .error unsupported ↔
      (Naming.isMemberName (Naming.publicName key) = false ∧
          unsupported = ⟨pointer, .propertyName key⟩) ∨
        (Naming.isMemberName (Naming.publicName key) = true ∧
          ofShape (Naming.publicName key) node pointer = .error unsupported) := by
  unfold ofProperty
  cases named : Naming.isMemberName (Naming.publicName key) with
  | false =>
      simp only [named, Bool.false_eq_true, if_false, false_and, or_false, true_and,
        Except.error.injEq, @eq_comm _ _ unsupported]
  | true =>
      simp only [named, if_true, Steps.bind_eq_error_iff, Bool.true_eq_false, false_and, false_or,
        true_and]
      constructor
      · rintro (failed | ⟨shaped, -, finished⟩)
        · exact failed
        · nomatch finished
      · exact Or.inl

end Descriptor

namespace Literal

variable {target : Target} {element : Descriptor} {literal : Literal} {value : Json.Value}
  {literals : List Literal}

/-- A value is read as a sequence if it is an array and each of its elements is read. -/
theorem sequenceOf?_eq_some_iff :
    sequenceOf? target value = some literals ↔
      ∃ values, value = .array values ∧
        List.Forall₂ (fun value literal => ofValue? target value = some literal)
          values literals := by
  simp only [sequenceOf?, Option.bind_eq_some_iff, Steps.mapM_eq_some_iff]
  cases value <;> simp [Json.Value.asArray?]

theorem ofValue?_array_eq_some_iff :
    ofValue? (.array element) value = some literal ↔
      ∃ values literals, value = .array values ∧ literal = .sequence literals ∧
        List.Forall₂ (fun value literal => ofValue? element.target value = some literal)
          values literals := by
  rw [Descriptor.ofValue?_array, Option.map_eq_some_iff]
  simp only [sequenceOf?_eq_some_iff]
  constructor
  · rintro ⟨literals, ⟨values, rfl, related⟩, rfl⟩
    exact ⟨values, literals, rfl, rfl, related⟩
  · rintro ⟨values, literals, rfl, rfl, related⟩
    exact ⟨literals, ⟨values, rfl, related⟩, rfl⟩

theorem ofValue?_scalar_ne_sequence {kind : ScalarKind} :
    ofValue? (.scalar kind) value ≠ some (.sequence literals) := by
  intro made
  cases kind with
  | string | integer | number | boolean =>
      obtain ⟨_, -, isSequence⟩ := Option.map_eq_some_iff.mp made
      nomatch isSequence
  | any =>
      cases value with
      | number written =>
          simp only [ofValue?, ofUntyped?] at made
          split at made
          · nomatch made
          · obtain ⟨_, -, isSequence⟩ := Option.map_eq_some_iff.mp made
            nomatch isSequence
      | string | boolean | null | array | object => nomatch made

end Literal

namespace Descriptor

/-- The literals that an array starts with are those of the elements of its default. -/
theorem startingLiterals_made {node : Schema.Node} {element : Descriptor}
    (fits : DefaultFits node (.array element)) :
    ∃ origins,
      List.Forall₂ (fun value literal => Literal.ofValue? element.target value = some literal)
        origins (startingLiterals node element.target) := by
  cases initialEq : node.initialValue? with
  | none =>
      have noLiterals : startingLiterals node element.target = [] := by
        simp only [startingLiterals, initialEq, Option.bind_none, Option.getD_none]
      rw [noLiterals]
      exact ⟨[], .nil⟩
  | some initial =>
      obtain ⟨origins, -, related⟩ :=
        Literal.sequenceOf?_eq_some_iff.mp (sequenceOf?_startingLiterals fits initialEq)
      exact ⟨origins, related⟩

end Descriptor
end SchemaClasses
